import Mathlib.Data.Char
import Mathlib.Data.List.Lex
import Mathlib.Data.List.Sort
import ShadowPanel.Data.CleanPaths

namespace ShadowPanel.Archiver

open Data List

/-! The manifest of an archive, of `internal/services/filemanager/archiver/manifest.go`. -/

inductive FileType where
  | unknown | dir | file | device | blockDevice | namedPipe | symlink | socket
  deriving DecidableEq

structure FileInfo where
  path : List Char
  size : UInt64
  timeModified : UInt64
  type : FileType
  perm : UInt32
  symlinkTarget : List Char

structure Entry where
  absPath : List Char
  relPath : List Char
  size : UInt64
  mode : UInt32
  modTime : UInt64
  type : FileType
  symlinkTarget : List Char

structure Manifest where
  entries : List Entry
  skipped : List (List Char)
  totalSize : UInt64
  totalFiles : UInt32
  rootName : List Char

structure Limits where
  maxTotalBytes : UInt64
  maxFiles : UInt32

inductive ManifestError (Fault : Type*) where
  | lister (message : String) (cause : Fault)
  | notADirectory
  | emptyManifest
  | tooLarge (total limit : UInt64)
  | tooManyFiles (total limit : UInt32)

def stripWorkPath (workPath fullPath : List Char) : List Char :=
  let rel := trimPrefix ['/'] (trimPrefix workPath fullPath)
  if rel = [] then ['.'] else rel

def relativeArchivePath (rootRel rootBase fullRel : List Char) : List Char :=
  let cleanFull := trimPrefix ['/'] fullRel
  let cleanRoot := trimPrefix ['/'] rootRel
  if cleanFull = [] ∨ cleanFull = cleanRoot then []
  else
    let rest := trimPrefix ['/'] (trimPrefix cleanRoot cleanFull)
    if rest = [] then [] else joinPaths [rootBase, rest]

def ensureTrailingSlash (path : List Char) : List Char :=
  if path.getLast? = some '/' then path else path ++ ['/']

def archiveName (rootRel : List Char) : List Char :=
  let rootBase := base rootRel
  if rootBase = [] ∨ rootBase = ['.'] ∨ rootBase = ['/'] then "archive".toList else rootBase

def entry (workPath relPath : List Char) (file : FileInfo) : Entry where
  absPath := joinPaths [workPath, file.path]
  relPath := relPath
  size := file.size
  mode := file.perm
  modTime := file.timeModified
  type := file.type
  symlinkTarget := file.symlinkTarget

def addFile (workPath rootRel : List Char) (manifest : Manifest) (file : FileInfo) : Manifest :=
  let relInArchive := relativeArchivePath rootRel manifest.rootName file.path
  if relInArchive = [] then manifest
  else
    match file.type with
    | .file =>
      { manifest with
        entries := manifest.entries ++ [entry workPath relInArchive file]
        totalSize := manifest.totalSize + file.size
        totalFiles := manifest.totalFiles + 1 }
    | .dir =>
      { manifest with
        entries := manifest.entries ++ [entry workPath (ensureTrailingSlash relInArchive) file] }
    | .symlink =>
      { manifest with
        entries := manifest.entries ++ [entry workPath relInArchive file]
        totalFiles := manifest.totalFiles + 1 }
    | _ => { manifest with skipped := manifest.skipped ++ [relInArchive] }

def sortEntries (entries : List Entry) : List Entry :=
  entries.insertionSort (Order.Preimage Entry.relPath (· ≤ ·))

/-- What `GetFileInfo` and `ReadDirRecursive` answer for the root is given. -/
def buildManifest {Fault : Type*} (workPath rootAbsPath : List Char)
    (rootType : Except Fault FileType) (files : Except Fault (List FileInfo)) (limits : Limits) :
    Except (ManifestError Fault) Manifest :=
  match rootType with
  | .error cause => .error (.lister "stat root path" cause)
  | .ok type =>
    if type ≠ .dir then .error .notADirectory
    else
      match files with
      | .error cause => .error (.lister "list directory recursive" cause)
      | .ok files =>
        let rootRel := stripWorkPath workPath rootAbsPath
        let manifest :=
          files.foldl (addFile workPath rootRel) ⟨[], [], 0, 0, archiveName rootRel⟩
        if manifest.entries = [] then .error .emptyManifest
        else if 0 < limits.maxTotalBytes ∧ limits.maxTotalBytes < manifest.totalSize then
          .error (.tooLarge manifest.totalSize limits.maxTotalBytes)
        else if 0 < limits.maxFiles ∧ limits.maxFiles < manifest.totalFiles then
          .error (.tooManyFiles manifest.totalFiles limits.maxFiles)
        else .ok { manifest with entries := sortEntries manifest.entries }

/-- The texts of a root directory whose path below the work path is `dir`.  Joining drops
the slash that a work path ends with. -/
inductive AtOrBelow : List Char → Path → List Char → Prop
  | same (workPath : List Char) : AtOrBelow workPath [] workPath
  | trimmed (front : List Char) (path : Path) (nonempty : path ≠ [])
      (absolute : front = [] ∨ front = ['/']) :
      AtOrBelow (front ++ dirText path) [] (front ++ pathText path)
  | below (workPath slash : List Char) (dir : Path) (nonempty : dir ≠ [])
      (separated : slash = ['/'] ∨ slash = [] ∧ (workPath = [] ∨ workPath.getLast? = some '/')) :
      AtOrBelow workPath dir (workPath ++ (slash ++ pathText dir))

structure Listed (dir : Path) where
  path : Path
  nonempty : path ≠ []
  file : FileInfo
  named : trimPrefix ['/'] file.path = pathText (path ++ dir)

def FileType.isArchived : FileType → Bool
  | .file | .dir | .symlink => true
  | _ => false

def FileType.counted (type : FileType) (size : UInt64) : Nat × Nat :=
  match type with
  | .file => (size.toNat, 1)
  | .symlink => (0, 1)
  | _ => (0, 0)

section

variable {dir : Path} (workPath rootAbsPath rootName : List Char) (listed : Listed dir)

def Listed.relPath : List Char :=
  rootName ++ '/' :: if listed.file.type = .dir then dirText listed.path else pathText listed.path

def Listed.entry : Option Entry :=
  if listed.file.type.isArchived then
    some (Archiver.entry workPath (listed.relPath rootName) listed.file)
  else none

section

variable (listing : List (Listed dir))

def exactSize : Nat :=
  total (fun listed => (listed.file.type.counted listed.file.size).1) listing

def exactFiles : Nat :=
  total (fun listed => (listed.file.type.counted listed.file.size).2) listing

structure Exact (limits : Limits) (manifest : Manifest) : Prop where
  entries : manifest.entries.Perm (listing.filterMap (Listed.entry workPath manifest.rootName))
  sorted : (manifest.entries.map Entry.relPath).Pairwise (· < ·)
  totalSize : manifest.totalSize.toNat = exactSize listing
  maxTotalBytes : 0 < limits.maxTotalBytes → exactSize listing ≤ limits.maxTotalBytes.toNat
  maxFiles : 0 < limits.maxFiles → exactFiles listing ≤ limits.maxFiles.toNat

/-- The text that is taken for a root that is the work path: a dot, or the work path
itself once its last slash is dropped. -/
def rootText : List Char := if rootAbsPath = workPath then ['.'] else trimPrefix ['/'] rootAbsPath

/-- Where the root is the work path, no archived path begins with the text of the root. -/
def Unstripped : Prop :=
  dir = [] → ∀ listed ∈ listing, listed.file.type.isArchived = true →
    ¬rootText workPath rootAbsPath <+: pathText listed.path

end

end

private theorem getLast?_pathText (nonempty : path ≠ []) (front : List Char) :
    (front ++ '/' :: pathText path).getLast? ≠ some '/' := by
  obtain ⟨name, parent, rfl⟩ := exists_cons_of_ne_nil nonempty
  intro slash
  apply name.slash_free
  apply mem_of_getLast?
  simpa [pathText, getLast?_cons,
    getLast?_eq_some_getLast name.isName.1] using slash

theorem archiveName_isBase (rootRel : List Char) :
    archiveName rootRel ≠ [] ∧ '/' ∉ archiveName rootRel ∧ archiveName rootRel ≠ ['.'] := by
  unfold archiveName
  dsimp only
  split
  · decide
  next other =>
    obtain ⟨some, named, slash⟩ := (by simpa only [not_or] using other :
      base rootRel ≠ [] ∧ base rootRel ≠ ['.'] ∧ base rootRel ≠ ['/'])
    refine ⟨some, ?_, named⟩
    unfold base at slash ⊢
    split
    · decide
    · rw [if_neg ‹_›] at slash
      dsimp only at slash ⊢
      split at slash
      · exact absurd rfl slash
      · rw [if_neg ‹_›]
        exact fun inside => by simpa using mem_rtakeWhile_imp inside

section

variable {dir : Path} {workPath rootAbsPath : List Char}

theorem AtOrBelow.trimPrefix_strip (root : AtOrBelow workPath [] rootAbsPath) :
    trimPrefix ['/'] (stripWorkPath workPath rootAbsPath) = rootText workPath rootAbsPath ∧
      rootText workPath rootAbsPath ≠ [] := by
  generalize same : ([] : Path) = dir at root
  cases root with
  | same => simp [stripWorkPath, rootText, trimPrefix]
  | below _ _ _ nonempty => exact absurd same.symm nonempty
  | trimmed front path nonempty absolute =>
    rw [dirText_eq nonempty, ← append_assoc]
    have whole : trimPrefix (front ++ pathText path ++ ['/']) (front ++ pathText path) =
        front ++ pathText path := by
      apply trimPrefix_of_not
      intro starts
      have length := starts.length_le
      rw [length_append, length_singleton] at length
      omega
    have relative : trimPrefix ['/'] (front ++ pathText path) = pathText path := by
      cases absolute with
      | inl nothing => simp [nothing]
      | inr slash => rw [slash, trimPrefix_append]
    simp [stripWorkPath, rootText, whole, relative, pathText_ne_nil nonempty, -append_assoc]

private theorem AtOrBelow.strip_below (root : AtOrBelow workPath dir rootAbsPath)
    (below : dir ≠ []) :
    stripWorkPath workPath rootAbsPath = pathText dir := by
  cases root with
  | same | trimmed => exact absurd rfl below
  | below _ slash _ _ separated =>
    have relative : trimPrefix ['/'] (slash ++ pathText dir) = pathText dir := by
      rcases separated with slashed | ⟨nothing, _⟩
      · rw [slashed, trimPrefix_append]
      · simp [nothing]
    simp only [stripWorkPath, trimPrefix_append, relative, pathText_ne_nil below, if_false]

variable (workPath rootAbsPath) in
def relInArchive (file : FileInfo) : List Char :=
  relativeArchivePath (stripWorkPath workPath rootAbsPath)
    (archiveName (stripWorkPath workPath rootAbsPath)) file.path

private theorem AtOrBelow.relInArchive_eq (root : AtOrBelow workPath dir rootAbsPath)
    (listed : Listed dir)
    (unstripped : dir = [] → ¬rootText workPath rootAbsPath <+: pathText listed.path) :
    relInArchive workPath rootAbsPath listed.file =
      archiveName (stripWorkPath workPath rootAbsPath) ++ '/' :: pathText listed.path := by
  obtain ⟨base, free, dotless⟩ := archiveName_isBase (stripWorkPath workPath rootAbsPath)
  have some := pathText_ne_nil listed.nonempty
  have spelled := listed.named
  rw [pathText_append listed.nonempty] at spelled
  rw [← joinPaths_pathText base free dotless listed.nonempty]
  unfold relInArchive
  by_cases below : dir = []
  · subst below
    have apart := unstripped rfl
    have other : pathText listed.path ≠ rootText workPath rootAbsPath :=
      fun same => apart (same ▸ prefix_rfl)
    rw [show dirText [] ++ pathText listed.path = pathText listed.path from rfl] at spelled
    simp only [relativeArchivePath, spelled, root.trimPrefix_strip.1, some, other, or_self,
      if_false, trimPrefix_of_not apart, trimPrefix_pathText]
  · have slash : trimPrefix ['/'] ('/' :: pathText listed.path) = pathText listed.path :=
      trimPrefix_append ['/'] _
    rw [dirText_eq below] at spelled
    simp [relativeArchivePath, spelled, root.strip_below below, slash, some]

private theorem AtOrBelow.length_relInArchive_lt (root : AtOrBelow workPath [] rootAbsPath)
    (listed : Listed []) (stripped : rootText workPath rootAbsPath <+: pathText listed.path) :
    (relInArchive workPath rootAbsPath listed.file).length <
      (archiveName (stripWorkPath workPath rootAbsPath) ++ '/' :: pathText listed.path).length := by
  have based := (archiveName_isBase (stripWorkPath workPath rootAbsPath)).1
  have cut := length_pos_of_ne_nil root.trimPrefix_strip.2
  obtain ⟨rest, spelled⟩ := stripped
  have shorter : (trimPrefix ['/'] rest).length ≤ rest.length := by
    unfold trimPrefix
    split <;> simp
  have bound := Lexical.length_text_clean_le
    (show archiveName (stripWorkPath workPath rootAbsPath) ++ '/' :: trimPrefix ['/'] rest ≠ []
      by simp)
  have named := listed.named
  rw [append_nil, ← spelled] at named
  rw [← spelled]
  simp only [relInArchive, relativeArchivePath, named, root.trimPrefix_strip.1, trimPrefix_append,
    joinPaths_pair based]
  simp only [length_append, length_cons] at bound ⊢
  split
  · exact Nat.succ_pos _
  · split
    · exact Nat.succ_pos _
    · omega

end

def added (workPath rootAbsPath : List Char) (file : FileInfo) : Option Entry :=
  let relPath := relInArchive workPath rootAbsPath file
  if relPath = [] then none
  else
    match file.type with
    | .file | .symlink => some (entry workPath relPath file)
    | .dir => some (entry workPath (ensureTrailingSlash relPath) file)
    | _ => none

structure Filled (workPath rootAbsPath : List Char) (files : List FileInfo) (manifest : Manifest) :
    Prop where
  rootName : manifest.rootName = archiveName (stripWorkPath workPath rootAbsPath)
  entries : manifest.entries = files.filterMap (added workPath rootAbsPath)
  totalSize : manifest.totalSize =
    .ofNat (total (fun entry => (entry.type.counted entry.size).1) manifest.entries)
  totalFiles : manifest.totalFiles =
    .ofNat (total (fun entry => (entry.type.counted entry.size).2) manifest.entries)

theorem Filled.addFile {workPath rootAbsPath : List Char}
    (filled : Filled workPath rootAbsPath files manifest) (file : FileInfo) :
    Filled workPath rootAbsPath (files ++ [file])
      (Archiver.addFile workPath (stripWorkPath workPath rootAbsPath) manifest file) := by
  obtain ⟨rootName, entries, totalSize, totalFiles⟩ := filled
  have relPath : relativeArchivePath (stripWorkPath workPath rootAbsPath) manifest.rootName
      file.path = relInArchive workPath rootAbsPath file := by
    rw [rootName]
    rfl
  simp only [Archiver.addFile, relPath]
  split
  next dropped =>
    have nothing : added workPath rootAbsPath file = none := by simp [added, dropped]
    exact ⟨rootName, by simp [entries, nothing], totalSize, totalFiles⟩
  next kept =>
    cases type : file.type <;> constructor <;>
      simp [rootName, ← entries, added, kept, type, totalSize, totalFiles, total,
        FileType.counted, entry]

private theorem filled_foldl (workPath rootAbsPath : List Char) (files : List FileInfo) :
    Filled workPath rootAbsPath files
      (files.foldl (addFile workPath (stripWorkPath workPath rootAbsPath))
        ⟨[], [], 0, 0, archiveName (stripWorkPath workPath rootAbsPath)⟩) := by
  induction files using reverseRecOn with
  | nil => exact ⟨rfl, rfl, rfl, rfl⟩
  | append_singleton files file ih =>
    rw [foldl_append]
    exact ih.addFile file

private theorem buildManifest_ok {Fault : Type*} {workPath rootAbsPath : List Char}
    {rootType : Except Fault FileType}
    (built : buildManifest workPath rootAbsPath rootType (.ok files) limits = .ok manifest) :
    ∃ filled, Filled workPath rootAbsPath files filled ∧
      manifest = { filled with entries := sortEntries filled.entries } ∧
      (0 < limits.maxTotalBytes → filled.totalSize ≤ limits.maxTotalBytes) ∧
      (0 < limits.maxFiles → filled.totalFiles ≤ limits.maxFiles) := by
  refine ⟨_, filled_foldl workPath rootAbsPath files, ?_⟩
  unfold buildManifest at built
  split at built
  · cases built
  · split at built
    · cases built
    · dsimp only at built
      split at built
      · cases built
      · split at built
        · cases built
        · split at built
          · cases built
          next bytes count =>
            refine ⟨(Except.ok.inj built).symm, ?_, ?_⟩
            · intro limited
              exact UInt64.not_lt.mp fun larger => bytes ⟨limited, larger⟩
            · intro limited
              exact UInt32.not_lt.mp fun more => count ⟨limited, more⟩

section

variable {dir : Path} {workPath rootAbsPath rootName : List Char}
variable {listed other : Listed dir} {listing : List (Listed dir)}

theorem Listed.added_eq (root : AtOrBelow workPath dir rootAbsPath)
    (unstripped : dir = [] → listed.file.type.isArchived = true →
      ¬rootText workPath rootAbsPath <+: pathText listed.path) :
    added workPath rootAbsPath listed.file =
      listed.entry workPath (archiveName (stripWorkPath workPath rootAbsPath)) := by
  cases archived : listed.file.type.isArchived with
  | false =>
    unfold added Listed.entry
    split <;> cases type : listed.file.type <;> simp_all [FileType.isArchived]
  | true =>
    have joined := root.relInArchive_eq listed fun atRoot => unstripped atRoot archived
    unfold added Listed.entry Listed.relPath
    simp only [joined]
    cases type : listed.file.type <;>
      simp [FileType.isArchived, ensureTrailingSlash, dirText_eq listed.nonempty,
        getLast?_pathText listed.nonempty, -getLast?_append]

def relLength (entry : Option Entry) : Nat := (entry.map fun entry => entry.relPath.length).getD 0

private theorem AtOrBelow.relLength_lt (root : AtOrBelow workPath [] rootAbsPath)
    {listed : Listed []} (archived : listed.file.type.isArchived = true)
    (stripped : rootText workPath rootAbsPath <+: pathText listed.path) :
    relLength (added workPath rootAbsPath listed.file) <
      relLength (listed.entry workPath (archiveName (stripWorkPath workPath rootAbsPath))) := by
  have shorter := root.length_relInArchive_lt listed stripped
  have slashed : (ensureTrailingSlash (relInArchive workPath rootAbsPath listed.file)).length ≤
      (relInArchive workPath rootAbsPath listed.file).length + 1 := by
    unfold ensureTrailingSlash
    split <;> simp
  rw [length_append, length_cons] at shorter
  unfold added
  dsimp only
  split <;> cases type : listed.file.type <;>
    simp only [type, FileType.isArchived, Bool.false_eq_true] at archived <;>
    simp only [relLength, Listed.entry, Listed.relPath, type, FileType.isArchived, Archiver.entry,
      if_true, if_false, reduceCtorEq, Option.map_some, Option.map_none, Option.getD_some,
      Option.getD_none, length_append, length_cons, dirText_eq listed.nonempty] <;>
    omega

private theorem AtOrBelow.unstripped_of_perm (root : AtOrBelow workPath dir rootAbsPath)
    (same : ((listing.map Listed.file).filterMap (added workPath rootAbsPath)).Perm
      (listing.filterMap (Listed.entry workPath
      (archiveName (stripWorkPath workPath rootAbsPath))))) :
    Unstripped workPath rootAbsPath listing := by
  intro atRoot
  subst atRoot
  intro listed member archived stripped
  have lengths := total_perm (fun entry => entry.relPath.length) same
  rw [filterMap_map, total_filterMap, total_filterMap] at lengths
  refine Nat.ne_of_lt ?_ lengths
  refine total_lt_total ?_ member (root.relLength_lt archived stripped)
  intro other _
  by_cases shorter : other.file.type.isArchived = true ∧
      rootText workPath rootAbsPath <+: pathText other.path
  · exact (root.relLength_lt shorter.1 shorter.2).le
  · have same := Listed.added_eq root fun _ archived starts => shorter ⟨archived, starts⟩
    exact (congrArg relLength same).le

private theorem Listed.path_eq_of_relPath
    (same : listed.relPath rootName = other.relPath rootName) :
    listed.path = other.path := by
  have texts := (cons.inj (append_cancel_left same)).2
  split at texts <;> split at texts
  · rw [dirText_eq listed.nonempty, dirText_eq other.nonempty] at texts
    exact pathText_injective listed.nonempty other.nonempty (append_cancel_right texts)
  · exact absurd texts.symm (pathText_ne_dirText other.nonempty _)
  · exact absurd texts (pathText_ne_dirText listed.nonempty _)
  · exact pathText_injective listed.nonempty other.nonempty texts

private theorem nodup_relPaths (distinct : (listing.map Listed.path).Nodup) :
    ((listing.filterMap (Listed.entry workPath rootName)).map Entry.relPath).Nodup := by
  rw [List.Nodup, List.pairwise_map]
  refine (List.pairwise_map.mp distinct).filterMap _ ?_
  intro listed other different entry found otherEntry otherFound same
  simp only [Listed.entry, Option.ite_none_right_eq_some, Option.some.injEq] at found otherFound
  obtain ⟨_, rfl⟩ := found
  obtain ⟨_, rfl⟩ := otherFound
  exact different (Listed.path_eq_of_relPath same)

private theorem total_entries (count : Nat × Nat → Nat) (nothing : count (0, 0) = 0) :
    total (fun entry => count (entry.type.counted entry.size))
        (listing.filterMap (Listed.entry workPath rootName)) =
      total (fun listed => count (listed.file.type.counted listed.file.size)) listing := by
  rw [total_filterMap]
  apply congrArg (total · listing)
  funext listed
  unfold Listed.entry
  cases type : listed.file.type <;>
    simp [type, FileType.isArchived, FileType.counted, entry, nothing]

/-- A manifest that is built is exact when nothing is stripped from the paths in the
archive and the totals fit into their words. -/
theorem exact_iff {Fault : Type*} {rootType : Except Fault FileType} {limits : Limits}
    {manifest : Manifest} (root : AtOrBelow workPath dir rootAbsPath)
    (distinct : (listing.map Listed.path).Nodup)
    (built : buildManifest workPath rootAbsPath rootType (.ok (listing.map Listed.file)) limits =
      .ok manifest) :
    Exact workPath listing limits manifest ↔
      Unstripped workPath rootAbsPath listing ∧ exactSize listing < 18446744073709551616 ∧
        (0 < limits.maxFiles → exactFiles listing < 4294967296) := by
  obtain ⟨manifest, filled, rfl, bytes, files⟩ := buildManifest_ok built
  have permuted : (sortEntries manifest.entries).Perm manifest.entries :=
    perm_insertionSort _ _
  constructor
  · intro exact
    refine ⟨?_, ?_, ?_⟩
    · apply root.unstripped_of_perm
      have same := permuted.symm.trans exact.entries
      rwa [filled.entries, filled.rootName] at same
    · rw [← exact.totalSize]
      exact UInt64.toNat_lt _
    · intro limited
      exact (exact.maxFiles limited).trans_lt (UInt32.toNat_lt _)
  · intro ⟨unstripped, fits, count⟩
    have entries : manifest.entries =
        listing.filterMap (Listed.entry workPath manifest.rootName) := by
      rw [filled.entries, filled.rootName, filterMap_map]
      apply filterMap_congr
      intro listed member
      exact Listed.added_eq root fun atRoot => unstripped atRoot listed member
    have size : manifest.totalSize.toNat = exactSize listing := by
      rw [filled.totalSize, entries, total_entries Prod.fst rfl]
      exact Nat.mod_eq_of_lt fits
    constructor
    case entries => exact entries ▸ permuted
    case sorted =>
      have ordered : ((sortEntries manifest.entries).map Entry.relPath).Pairwise (· ≤ ·) :=
        List.pairwise_map.mpr (pairwise_insertionSort _ _)
      have unequal := (permuted.map Entry.relPath).nodup_iff.mpr (entries ▸ nodup_relPaths distinct)
      exact ordered.imp₂ (fun _ _ => lt_of_le_of_ne) unequal
    case totalSize => exact size
    case maxTotalBytes =>
      intro limited
      exact size ▸ UInt64.le_iff_toNat_le.mp (bytes limited)
    case maxFiles =>
      intro limited
      have within := UInt32.le_iff_toNat_le.mp (files limited)
      rw [filled.totalFiles, entries, total_entries Prod.snd rfl] at within
      exact Nat.mod_eq_of_lt (count limited) ▸ within

end

theorem isName_sample : IsName ['a'] ∧ IsName ['.', 'e', 'n', 'v'] := by decide

def sampleName : Name := ⟨_, isName_sample.1⟩

def hiddenName : Name := ⟨_, isName_sample.2⟩

def sampleFile (name : Name) (dir : Path) (size : UInt64) : Listed dir where
  path := [name]
  nonempty := cons_ne_nil _ _
  file := ⟨pathText ([name] ++ dir), size, 0, .file, 0, []⟩
  named := trimPrefix_pathText ([name] ++ dir)

def sampleManifest (rootAbsPath : String) (files : List FileInfo) (limits : Limits) :
    Except (ManifestError Empty) Manifest :=
  buildManifest "/work".toList rootAbsPath.toList (.ok .dir) (.ok files) limits

theorem exact_iff_below :
    ∃ manifest, sampleManifest "/work/a" [(sampleFile sampleName [sampleName] 5).file] ⟨5, 1⟩ =
        .ok manifest ∧
      Exact "/work".toList [sampleFile sampleName [sampleName] 5] ⟨5, 1⟩ manifest := by
  have root : AtOrBelow "/work".toList [sampleName] "/work/a".toList :=
    .below _ ['/'] _ (cons_ne_nil _ _) (.inl rfl)
  have distinct : ([sampleFile sampleName [sampleName] 5].map Listed.path).Nodup :=
    nodup_singleton _
  have succeeds : (sampleManifest "/work/a" [(sampleFile sampleName [sampleName] 5).file]
      ⟨5, 1⟩).isOk = true := by decide +kernel
  cases built : sampleManifest "/work/a" [(sampleFile sampleName [sampleName] 5).file] ⟨5, 1⟩ with
  | error fault =>
    rw [built] at succeeds
    cases succeeds
  | ok manifest =>
    refine ⟨manifest, rfl, (exact_iff root distinct built).mpr ⟨?_, ?_, ?_⟩⟩
    · intro atRoot
      cases atRoot
    · decide +kernel
    · decide +kernel

theorem hidden_renamed_and_size_wraps :
    ((sampleManifest "/work" [(sampleFile hiddenName [] 5).file] ⟨0, 0⟩).toOption.map
        fun manifest => (manifest.rootName, manifest.entries.map Entry.relPath)) =
        some ("archive".toList, ["archive/env".toList]) ∧
      (sampleFile hiddenName [] 5).relPath "archive".toList = "archive/.env".toList ∧
      (sampleManifest "/work/a" [(sampleFile sampleName [sampleName] 9223372036854775808).file,
          (sampleFile hiddenName [sampleName] 9223372036854775808).file] ⟨5, 0⟩).toOption.map
        Manifest.totalSize = some 0 := by
  decide +kernel

end ShadowPanel.Archiver
