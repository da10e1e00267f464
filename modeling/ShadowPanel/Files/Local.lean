import ShadowPanel.Data.Keyed
import ShadowPanel.Files.Managers

namespace ShadowPanel.Files

open Data Table List

universe u

inductive Node (α : Type u) where
  | directory
  | file (content : α)

namespace Node

variable {α : Type u}

def isDir : Node α → Bool
  | .directory => true
  | .file _ => false

def content : Node α → Option α
  | .directory => none
  | .file content => some content

end Node

def isDirectoryIn {α : Type u} (nodes : Table Path (Node α)) (path : Path) : Bool :=
  path.isEmpty || (nodes.lookup path).any Node.isDir

/-- The tree below the root directory: whatever is in it lies in a directory that
is in it too. -/
structure LocalFileManager (α : Type u) where
  nodes : Table Path (Node α)
  rooted : ∀ name parent, name :: parent ∈ nodes → isDirectoryIn nodes parent = true
  rootless : [] ∉ nodes

structure DirEntry where
  name : Name
  isDir : Bool

namespace LocalFileManager

variable {α : Type u}

def empty : LocalFileManager α where
  nodes := ∅
  rooted := fun _ _ member => absurd member (AList.notMem_empty _)
  rootless := AList.notMem_empty _

def isDirectory (fm : LocalFileManager α) (path : Path) : Bool := isDirectoryIn fm.nodes path

def file (fm : LocalFileManager α) (path : Path) : Option α :=
  (fm.nodes.lookup path).bind Node.content

def existsAt (fm : LocalFileManager α) (path : Path) : Bool :=
  path.isEmpty || (fm.nodes.lookup path).isSome

def blocked (fm : LocalFileManager α) : Path → Bool
  | [] => false
  | name :: parent => (fm.file (name :: parent)).isSome || fm.blocked parent

private theorem isDirectory_place {nodes : Table Path (Node α)} {node : Node α}
    (free : isDirectoryIn nodes path = false) (directory : isDirectoryIn nodes other = true) :
    isDirectoryIn (nodes.insert path node) other = true := by
  unfold isDirectoryIn at ⊢
  rw [lookup_insert_eq]
  split
  next same =>
    subst same
    exact absurd (free.symm.trans directory) Bool.false_ne_true
  next => exact directory

section

variable (fm : LocalFileManager α)

def place (name : Name) (parent : Path) (node : Node α) (under : fm.isDirectory parent = true)
    (free : fm.isDirectory (name :: parent) = false) : LocalFileManager α where
  nodes := fm.nodes.insert (name :: parent) node
  rooted := by
    intro entry dir member
    apply isDirectory_place free
    cases (AList.mem_insert fm.nodes).mp member with
    | inl same =>
      obtain ⟨-, rfl⟩ := cons.inj same
      exact under
    | inr old => exact fm.rooted entry dir old
  rootless := by
    intro member
    cases (AList.mem_insert fm.nodes).mp member with
    | inl same => cases same
    | inr old => exact fm.rootless old

def without (gone : Path → Bool)
    (closed : ∀ name parent, name :: parent ∈ fm.nodes → gone parent = true →
      gone (name :: parent) = true) : LocalFileManager α where
  nodes := fm.nodes.keep fun path => !gone path
  rooted := by
    intro name parent member
    obtain ⟨kept, old⟩ := Table.mem_keep.mp member
    have directory := fm.rooted name parent old
    have stays : gone parent = false := by
      rw [Bool.eq_false_iff]
      intro parentGone
      simp [closed name parent old parentGone] at kept
    unfold isDirectoryIn at directory ⊢
    simpa [stays] using directory
  rootless := fun member => fm.rootless (Table.mem_keep.mp member).2

def read (path : Path) : Option α := fm.file path

/-- `root.WriteFile`, and what `root.OpenFile` with `O_CREATE|O_TRUNC` makes room for. -/
def writeFile (path : Path) (data : α) : Option (LocalFileManager α) :=
  match path with
  | [] => none
  | name :: parent =>
    if allowed : fm.isDirectory parent = true ∧ fm.isDirectory (name :: parent) = false then
      some (fm.place name parent (.file data) allowed.1 allowed.2)
    else none

end

def mkdirAll (fm : LocalFileManager α) : Path → Option (LocalFileManager α)
  | [] => some fm
  | name :: parent =>
    if fm.existsAt (name :: parent) then some fm
    else do
      let made ← fm.mkdirAll parent
      if allowed : made.isDirectory parent = true ∧ made.isDirectory (name :: parent) = false then
        some (made.place name parent .directory allowed.1 allowed.2)
      else none

section

variable (fm : LocalFileManager α)

def write (path : Path) (data : α) : Option (LocalFileManager α) :=
  if fm.existsAt path then fm.writeFile path data
  else do
    let made ← fm.mkdirAll path.tail
    made.writeFile path data

/-- The file is made before the stream is read, and keeps what was read of it. -/
def writeStream (path : Path) (data : Reader α) : LocalFileManager α × Bool :=
  match fm.write path data.content with
  | none => (fm, false)
  | some written => (written, !data.fails)

def entriesOf (dir : Path) : List DirEntry :=
  fm.nodes.entries.filterMap fun entry =>
    match entry.1 with
    | [] => none
    | name :: parent => if parent = dir then some ⟨name, entry.2.isDir⟩ else none

def list (dir : Path) : Option (List (List Char)) :=
  if fm.isDirectory dir then some ((fm.entriesOf dir).map fun entry => entry.name.text) else none

end

theorem mem_entriesOf {fm : LocalFileManager α} : entry ∈ fm.entriesOf dir ↔
    ∃ node, fm.nodes.lookup (entry.name :: dir) = some node ∧ node.isDir = entry.isDir := by
  unfold entriesOf
  rw [mem_filterMap]
  constructor
  · rintro ⟨⟨path, node⟩, member, shape⟩
    cases path with
    | nil => cases shape
    | cons name parent =>
      dsimp only at shape
      split at shape
      next same =>
        cases shape
        subst same
        exact ⟨node, AList.mem_lookup_iff.mpr member, rfl⟩
      next => cases shape
  · rintro ⟨node, found, kind⟩
    exact ⟨⟨_, node⟩, AList.mem_lookup_iff.mp found, by simp [kind]⟩

def delete (fm : LocalFileManager α) (path : Path) : Option (LocalFileManager α) :=
  if removable : path ∈ fm.nodes ∧ fm.entriesOf path = [] then
    some (fm.without (· = path) (by
      intro name parent member isGone
      have same : parent = path := of_decide_eq_true isGone
      obtain ⟨node, found⟩ := Option.isSome_iff_exists.mp (AList.lookup_isSome.mpr member)
      subst same
      have inside : (⟨name, node.isDir⟩ : DirEntry) ∈ fm.entriesOf parent :=
        mem_entriesOf.mpr ⟨node, found, rfl⟩
      rw [removable.2] at inside
      cases inside))
  else none

/-- `root.Remove`, where it is no error that nothing is there. -/
def removeIfThere (fm : LocalFileManager α) (path : Path) : Option (LocalFileManager α) :=
  if path ∈ fm.nodes then fm.delete path else some fm

def removeEntries (removeDir : LocalFileManager α → Path → Option (LocalFileManager α))
    (wanted : Name → Bool) (dir : Path) (fm : LocalFileManager α) (entries : List DirEntry) :
    Option (LocalFileManager α) :=
  entries.foldlM (fun fm entry =>
    if wanted entry.name then
      if entry.isDir then removeDir fm (entry.name :: dir)
      else fm.removeIfThere (entry.name :: dir)
    else some fm) fm

/-- The fuel is spent on the depth of the tree. -/
def removeDirRecursive : Nat → LocalFileManager α → Path → Option (LocalFileManager α)
  | 0, _, _ => none
  | fuel + 1, fm, path =>
    if fm.isDirectory path then do
      let cleared ←
        removeEntries (removeDirRecursive fuel) (fun _ => true) path fm (fm.entriesOf path)
      cleared.delete path
    else if fm.blocked path then none
    else some fm

def depth (fm : LocalFileManager α) : Nat := lastNumber (fm.nodes.keys.map length)

def deleteByPrefix (fm : LocalFileManager α) (start : List Char) : Option (LocalFileManager α) :=
  match (Lexical.dir start).within with
  | none => none
  | some dir =>
    if fm.isDirectory dir then
      removeEntries (removeDirRecursive (fm.depth + 1))
        (fun name => (base start).isPrefixOf name.text || name.text == base start) dir fm
        (fm.entriesOf dir)
    else if fm.blocked dir then none
    else some fm

def manager : StreamFileManager (LocalFileManager α) α where
  read := read
  write := write
  delete := delete
  existsAt := existsAt
  list := list
  readStream := read
  writeStream := writeStream
  deleteByPrefix := deleteByPrefix

theorem mem_of_isDirectory {fm : LocalFileManager α} (nonempty : path ≠ [])
    (directory : fm.isDirectory path = true) : path ∈ fm.nodes := by
  apply AList.lookup_isSome.mp
  unfold isDirectory isDirectoryIn at directory
  cases found : fm.nodes.lookup path with
  | none => simp [found, nonempty] at directory
  | some node => rfl

theorem isDirectory_of_mem {fm : LocalFileManager α} (rest : Path) {name : Name} {dir : Path}
    (member : rest ++ name :: dir ∈ fm.nodes) :
    name :: dir ∈ fm.nodes ∧ fm.isDirectory dir = true := by
  induction rest with
  | nil => exact ⟨member, fm.rooted name dir member⟩
  | cons first rest ih =>
    apply ih
    exact mem_of_isDirectory (by simp) (fm.rooted first (rest ++ name :: dir) member)

theorem entriesOf_nil_of_not_isDirectory {fm : LocalFileManager α}
    (other : fm.isDirectory path = false) : fm.entriesOf path = [] := by
  rw [eq_nil_iff_forall_not_mem]
  intro entry inside
  obtain ⟨node, found, -⟩ := mem_entriesOf.mp inside
  have directory := fm.rooted entry.name path (AList.lookup_isSome.mp (by rw [found]; rfl))
  exact absurd (other.symm.trans directory) Bool.false_ne_true

theorem nodup_entriesOf (fm : LocalFileManager α) (dir : Path) :
    ((fm.entriesOf dir).map DirEntry.name).Nodup := by
  have paths : ((fm.entriesOf dir).map fun entry => entry.name :: dir).Sublist fm.nodes.keys := by
    unfold entriesOf
    rw [map_filterMap]
    apply filterMap_sublist_map
    rintro ⟨path, node⟩ key picked
    obtain ⟨entry, shape, rfl⟩ := Option.map_eq_some_iff.mp picked
    cases path with
    | nil => cases shape
    | cons name parent =>
      dsimp only at shape
      split at shape
      next same =>
        cases shape
        rw [same]
      next => cases shape
  have distinct := paths.nodup fm.nodes.keys_nodup
  apply List.Nodup.of_map (· :: dir)
  rwa [map_map]

theorem delete_eq {fm : LocalFileManager α} (member : path ∈ fm.nodes)
    (clear : fm.entriesOf path = []) :
    ∃ left, fm.delete path = some left ∧
      left.nodes = fm.nodes.keep fun key => !decide (key = path) :=
  ⟨_, dif_pos ⟨member, clear⟩, rfl⟩

theorem delete_of_empty {fm : LocalFileManager α} (member : path ∈ fm.nodes)
    (clear : fm.entriesOf path = []) :
    ∃ left, fm.delete path = some left ∧
      left.nodes = fm.nodes.keep fun key => !decide (path <:+ key) := by
  obtain ⟨left, deleted, nodes⟩ := delete_eq member clear
  refine ⟨left, deleted, nodes.trans (keep_congr ?_)⟩
  intro key inside
  congr 1
  rw [decide_eq_decide]
  constructor
  · rintro rfl
    exact suffix_rfl
  · rintro ⟨rest, rfl⟩
    obtain rfl | ⟨rest, name, rfl⟩ := eq_nil_or_concat rest
    · rfl
    · rw [concat_eq_append, append_assoc] at inside
      obtain ⟨child, -⟩ := isDirectory_of_mem _ inside
      obtain ⟨node, found⟩ := Option.isSome_iff_exists.mp (AList.lookup_isSome.mpr child)
      have entry : (⟨name, node.isDir⟩ : DirEntry) ∈ fm.entriesOf path :=
        mem_entriesOf.mpr ⟨node, found, rfl⟩
      rw [clear] at entry
      cases entry

def Bounded (bound : Nat) (fm : LocalFileManager α) : Prop := ∀ path ∈ fm.nodes, path.length ≤ bound

private theorem bounded_depth (fm : LocalFileManager α) :
    fm.Bounded fm.depth := le_lastNumber length

theorem Bounded.of_keep {fm left : LocalFileManager α} {kept : Path → Bool}
    (bounded : fm.Bounded bound) (nodes : left.nodes = fm.nodes.keep kept) :
    left.Bounded bound := by
  intro path member
  rw [nodes] at member
  exact bounded path (mem_keep.mp member).2

def Clears (bound : Nat) (removeDir : LocalFileManager α → Path → Option (LocalFileManager α))
    (dir : Path) : Prop :=
  ∀ (fm : LocalFileManager α) (name : Name), fm.Bounded bound → name :: dir ∈ fm.nodes →
    fm.isDirectory (name :: dir) = true →
      ∃ left, removeDir fm (name :: dir) = some left ∧
        left.nodes = fm.nodes.keep fun key => !decide (name :: dir <:+ key)

theorem mem_of_mem_entriesOf {fm : LocalFileManager α} (inside : entry ∈ fm.entriesOf dir) :
    entry.name :: dir ∈ fm.nodes ∧ fm.isDirectory (entry.name :: dir) = entry.isDir := by
  obtain ⟨node, found, kind⟩ := mem_entriesOf.mp inside
  refine ⟨AList.lookup_isSome.mp (by rw [found]; rfl), ?_⟩
  simp [isDirectory, isDirectoryIn, found, kind]

private theorem remove_entry {fm : LocalFileManager α}
    {removeDir : LocalFileManager α → Path → Option (LocalFileManager α)}
    (clears : Clears bound removeDir dir) (bounded : fm.Bounded bound)
    (inside : entry ∈ fm.entriesOf dir) :
    ∃ left, (if entry.isDir then removeDir fm (entry.name :: dir)
        else fm.removeIfThere (entry.name :: dir)) = some left ∧
      left.nodes = fm.nodes.keep fun key => !decide (entry.name :: dir <:+ key) := by
  obtain ⟨member, kind⟩ := mem_of_mem_entriesOf inside
  cases isDir : entry.isDir with
  | true => exact clears fm entry.name bounded member (kind.trans isDir)
  | false =>
    rw [removeIfThere, if_pos member]
    exact delete_of_empty member (entriesOf_nil_of_not_isDirectory (kind.trans isDir))

private theorem not_suffix_of_ne (dir : Path) (different : first ≠ second) :
    ¬first :: dir <:+ second :: dir := by
  intro below
  have same := below.eq_of_length rfl
  exact different (cons.inj same).1

theorem removeEntries_eq {bound : Nat} {dir : Path} (wanted : Name → Bool)
    {removeDir : LocalFileManager α → Path → Option (LocalFileManager α)}
    (clears : Clears bound removeDir dir) {entries : List DirEntry} {fm : LocalFileManager α}
    (bounded : fm.Bounded bound) (there : ∀ entry ∈ entries, entry ∈ fm.entriesOf dir)
    (distinct : (entries.map DirEntry.name).Nodup) :
    ∃ left, removeEntries removeDir wanted dir fm entries = some left ∧
      left.nodes = fm.nodes.keep fun key =>
        !entries.any fun entry => wanted entry.name && decide (entry.name :: dir <:+ key) := by
  induction entries generalizing fm with
  | nil =>
    refine ⟨fm, rfl, (keep_all ?_).symm⟩
    intro key inside
    rfl
  | cons entry entries ih =>
    rw [map_cons, nodup_cons] at distinct
    unfold removeEntries
    rw [foldlM_cons]
    cases isWanted : wanted entry.name with
    | false =>
      obtain ⟨left, removed, nodes⟩ := ih bounded
        (fun other inside => there other (mem_cons_of_mem _ inside)) distinct.2
      refine ⟨left, removed, nodes.trans ?_⟩
      simp [isWanted]
    | true =>
      obtain ⟨middle, removed, nodes⟩ :=
        remove_entry clears bounded (there entry mem_cons_self)
      have still : ∀ other ∈ entries, other ∈ middle.entriesOf dir := by
        intro other inside
        obtain ⟨node, found, kind⟩ :=
          mem_entriesOf.mp (there other (mem_cons_of_mem _ inside))
        refine mem_entriesOf.mpr ⟨node, ?_, kind⟩
        have different : entry.name ≠ other.name :=
          fun same => distinct.1 (same ▸ mem_map_of_mem inside)
        rw [nodes, lookup_keep, if_pos (by simp [not_suffix_of_ne dir different])]
        exact found
      obtain ⟨left, later, rest⟩ := ih (bounded.of_keep nodes) still distinct.2
      refine ⟨left, ?_, ?_⟩
      · rw [removed]
        exact later
      · rw [rest, nodes, keep_keep]
        apply keep_congr
        intro key inside
        simp [isWanted, Bool.and_comm]

private theorem removeDirRecursive_eq {fm : LocalFileManager α} (bounded : fm.Bounded bound)
    (member : path ∈ fm.nodes) (directory : fm.isDirectory path = true)
    (enough : bound < path.length + fuel) :
    ∃ left, removeDirRecursive fuel fm path = some left ∧
      left.nodes = fm.nodes.keep fun key => !decide (path <:+ key) := by
  induction fuel generalizing fm path with
  | zero =>
    have := bounded path member
    omega
  | succ fuel ih =>
    have clears : Clears bound (removeDirRecursive fuel (α := α)) path := by
      intro inner name innerBounded innerMember innerDirectory
      exact ih innerBounded innerMember innerDirectory (by simp only [length_cons]; omega)
    obtain ⟨cleared, removed, nodes⟩ := removeEntries_eq (fun _ => true) clears bounded
      (fun _ inside => inside) (fm.nodup_entriesOf path)
    have stays : path ∈ cleared.nodes := by
      rw [nodes, mem_keep]
      refine ⟨?_, member⟩
      simp only [Bool.not_eq_true', any_eq_false]
      intro entry _ below
      exact absurd (of_decide_eq_true below).length_le (Nat.not_succ_le_self _)
    have clear : cleared.entriesOf path = [] := by
      rw [eq_nil_iff_forall_not_mem]
      intro entry inside
      obtain ⟨node, found, kind⟩ := mem_entriesOf.mp inside
      rw [nodes, lookup_keep] at found
      split at found
      next kept =>
        have before : entry ∈ fm.entriesOf path := mem_entriesOf.mpr ⟨node, found, kind⟩
        simp only [Bool.not_eq_true', any_eq_false] at kept
        exact kept entry before (decide_eq_true suffix_rfl)
      next => cases found
    obtain ⟨left, deleted, rest⟩ := delete_of_empty stays clear
    refine ⟨left, ?_, ?_⟩
    · rw [removeDirRecursive, if_pos directory, removed]
      exact deleted
    · rw [rest, nodes, keep_keep]
      apply keep_congr
      intro key _
      by_cases below : path <:+ key
      · simp [below]
      · have outside : ∀ entry : DirEntry, ¬entry.name :: path <:+ key :=
          fun entry inner => below ((suffix_cons _ _).trans inner)
        simp [outside]

theorem deleteByPrefix_eq {fm : LocalFileManager α} (opened : (Lexical.dir start).within = some dir)
    (directory : fm.isDirectory dir = true) :
    ∃ left, fm.deleteByPrefix start = some left ∧
      left.nodes = fm.nodes.keep fun key => !decide (Below dir (base start) key) := by
  have clears : Clears fm.depth (removeDirRecursive (fm.depth + 1) (α := α)) dir := by
    intro inner name bounded member isDirectory
    exact removeDirRecursive_eq bounded member isDirectory (by simp only [length_cons]; omega)
  obtain ⟨left, removed, nodes⟩ := removeEntries_eq
    (fun name => (base start).isPrefixOf name.text || name.text == base start) clears
    fm.bounded_depth (fun _ inside => inside) (fm.nodup_entriesOf dir)
  refine ⟨left, ?_, nodes.trans (keep_congr ?_)⟩
  · simp only [deleteByPrefix, opened, directory, if_true, removed]
  · intro key member
    congr 1
    rw [Bool.eq_iff_iff, any_eq_true, decide_eq_true_iff, below_iff]
    constructor
    · rintro ⟨entry, -, taken⟩
      rw [Bool.and_eq_true, Bool.or_eq_true, isPrefixOf_iff_prefix, beq_iff_eq,
        decide_eq_true_iff] at taken
      obtain ⟨starts, rest, rfl⟩ := taken
      refine ⟨rest, entry.name, rfl, ?_⟩
      cases starts with
      | inl starts => exact starts
      | inr same => exact same ▸ prefix_rfl
    · rintro ⟨rest, name, rfl, starts⟩
      obtain ⟨child, -⟩ := isDirectory_of_mem _ member
      obtain ⟨node, found⟩ := Option.isSome_iff_exists.mp (AList.lookup_isSome.mpr child)
      refine ⟨⟨name, node.isDir⟩, mem_entriesOf.mpr ⟨node, found, rfl⟩, ?_⟩
      simp [starts]

@[simp] theorem file_nil (fm : LocalFileManager α) : fm.file [] = none := by
  unfold file
  rw [AList.lookup_eq_none.mpr fm.rootless]
  rfl

section

variable {fm : LocalFileManager α} (stored : (fm.file path).isSome = true)

include stored

theorem ne_nil_of_file : path ≠ [] := by
  rintro rfl
  simp at stored

theorem mem_of_file : path ∈ fm.nodes := by
  apply AList.lookup_isSome.mp
  unfold file at stored
  cases found : fm.nodes.lookup path with
  | none => simp [found] at stored
  | some node => rfl

private theorem not_isDirectory_of_file : fm.isDirectory path = false := by
  obtain ⟨name, parent, rfl⟩ := exists_cons_of_ne_nil (ne_nil_of_file stored)
  unfold file at stored
  unfold isDirectory isDirectoryIn
  cases found : fm.nodes.lookup (name :: parent) with
  | none => rfl
  | some node =>
    cases node with
    | directory => simp [found, Node.content] at stored
    | file content => rfl

end

theorem existsAt_eq (fm : LocalFileManager α) (path : Path) :
    fm.existsAt path = ((fm.file path).isSome || fm.isDirectory path) := by
  unfold existsAt file isDirectory isDirectoryIn
  cases path with
  | nil => simp
  | cons name parent =>
    cases fm.nodes.lookup (name :: parent) with
    | none => rfl
    | some node => cases node <;> rfl

theorem isDirectory_of_suffix {fm : LocalFileManager α} (directory : fm.isDirectory path = true)
    (above : other <:+ path) : fm.isDirectory other = true := by
  obtain ⟨rest, rfl⟩ := above
  obtain rfl | ⟨rest, name, rfl⟩ := eq_nil_or_concat rest
  · exact directory
  · rw [concat_eq_append, append_assoc] at directory
    exact (isDirectory_of_mem _ (mem_of_isDirectory (by simp) directory)).2

theorem file_of_keep {fm left : LocalFileManager α} {kept : Path → Bool}
    (nodes : left.nodes = fm.nodes.keep kept) (path : Path) :
    left.file path = if kept path then fm.file path else none := by
  unfold file
  rw [nodes, lookup_keep]
  cases kept path <;> rfl

section

variable {fm : LocalFileManager α}

theorem file_place (other : Path) : (fm.place name parent node under free).file other =
    if other = name :: parent then node.content else fm.file other := by
  unfold file place
  rw [lookup_insert_eq]
  split <;> rfl

theorem isDirectory_place_iff (other : Path) :
    (fm.place name parent node under free).isDirectory other = true ↔
      other = name :: parent ∧ node.isDir = true ∨ fm.isDirectory other = true := by
  by_cases same : other = name :: parent
  · subst same
    rw [free]
    unfold isDirectory isDirectoryIn place
    simp
  · unfold isDirectory isDirectoryIn place
    simp [same]

end

private theorem mkdirAll_eq {fm : LocalFileManager α} (clear : fm.blocked path = false) :
    ∃ made, fm.mkdirAll path = some made ∧ (∀ other, made.file other = fm.file other) ∧
      ∀ other, made.isDirectory other = true ↔ fm.isDirectory other = true ∨ other <:+ path := by
  induction path with
  | nil =>
    refine ⟨fm, rfl, fun _ => rfl, ?_⟩
    intro other
    rw [suffix_nil]
    constructor
    · exact .inl
    · rintro (directory | rfl)
      · exact directory
      · rfl
  | cons name parent ih =>
    obtain ⟨noFile, parentClear⟩ := Bool.or_eq_false_iff.mp clear
    unfold mkdirAll
    cases there : fm.existsAt (name :: parent) with
    | true =>
      have directory : fm.isDirectory (name :: parent) = true := by
        rw [existsAt_eq, noFile] at there
        exact there
      refine ⟨fm, rfl, fun _ => rfl, ?_⟩
      intro other
      constructor
      · exact .inl
      · rintro (already | above)
        · exact already
        · exact isDirectory_of_suffix directory above
    | false =>
      obtain ⟨made, parents, files, directories⟩ := ih parentClear
      have absent : fm.isDirectory (name :: parent) = false := by
        rw [existsAt_eq, noFile] at there
        exact there
      have under : made.isDirectory parent = true :=
        (directories parent).mpr (.inr suffix_rfl)
      have free : made.isDirectory (name :: parent) = false := by
        rw [Bool.eq_false_iff]
        intro directory
        cases (directories _).mp directory with
        | inl before => exact absurd (absent.symm.trans before) Bool.false_ne_true
        | inr above => exact absurd above.length_le (Nat.not_succ_le_self _)
      refine ⟨made.place name parent .directory under free, ?_, ?_, ?_⟩
      · rw [parents]
        exact dif_pos ⟨under, free⟩
      · intro other
        rw [file_place]
        split
        next same =>
          subst same
          exact (Option.not_isSome_iff_eq_none.mp (by rw [noFile]; exact Bool.false_ne_true)).symm
        next => exact files other
      · intro other
        rw [isDirectory_place_iff, directories, suffix_cons_iff]
        tauto

theorem write_eq {fm : LocalFileManager α} {name : Name} {parent : Path} (data : α)
    (clear : fm.blocked parent = false) (free : fm.isDirectory (name :: parent) = false) :
    ∃ written, fm.write (name :: parent) data = some written ∧
      (∀ other, written.file other = if other = name :: parent then some data else fm.file other) ∧
      ∀ other, written.isDirectory other = true ↔
        fm.isDirectory other = true ∨ other <:+ parent := by
  unfold write
  cases there : fm.existsAt (name :: parent) with
  | true =>
    have stored : (fm.file (name :: parent)).isSome = true := by
      rw [existsAt_eq, free, Bool.or_false] at there
      exact there
    have under : fm.isDirectory parent = true := fm.rooted name parent (mem_of_file stored)
    refine ⟨fm.place name parent (.file data) under free, dif_pos ⟨under, free⟩, file_place, ?_⟩
    intro other
    rw [isDirectory_place_iff]
    constructor
    · rintro (⟨-, isDir⟩ | directory)
      · cases isDir
      · exact .inl directory
    · rintro (directory | above)
      · exact .inr directory
      · exact .inr (isDirectory_of_suffix under above)
  | false =>
    obtain ⟨made, parents, files, directories⟩ := mkdirAll_eq clear
    have under : made.isDirectory parent = true :=
      (directories parent).mpr (.inr suffix_rfl)
    have stillFree : made.isDirectory (name :: parent) = false := by
      rw [Bool.eq_false_iff]
      intro directory
      cases (directories _).mp directory with
      | inl before => exact absurd (free.symm.trans before) Bool.false_ne_true
      | inr above => exact absurd above.length_le (Nat.not_succ_le_self _)
    refine ⟨made.place name parent (.file data) under stillFree, ?_, ?_, ?_⟩
    · rw [tail_cons, parents]
      exact dif_pos ⟨under, stillFree⟩
    · intro other
      rw [file_place, files]
      rfl
    · intro other
      rw [isDirectory_place_iff, directories]
      simp [Node.isDir]

theorem delete_file {fm : LocalFileManager α} (stored : (fm.file path).isSome = true) :
    ∃ left, fm.delete path = some left ∧
      (∀ other, left.file other = if other = path then none else fm.file other) ∧
      ∀ other, left.isDirectory other = fm.isDirectory other := by
  have noDirectory := not_isDirectory_of_file stored
  obtain ⟨left, deleted, nodes⟩ :=
    delete_eq (mem_of_file stored) (entriesOf_nil_of_not_isDirectory noDirectory)
  refine ⟨left, deleted, ?_, ?_⟩
  · intro other
    rw [file_of_keep nodes]
    by_cases same : other = path <;> simp
  · intro other
    by_cases same : other = path
    · subst same
      rw [noDirectory]
      unfold isDirectory isDirectoryIn
      simpa [nodes] using ne_nil_of_file stored
    · unfold isDirectory isDirectoryIn
      simp [nodes, same]

end LocalFileManager

end ShadowPanel.Files
