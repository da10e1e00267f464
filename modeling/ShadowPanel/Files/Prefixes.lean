import ShadowPanel.Files.Local

namespace ShadowPanel.Files

open Data LocalFileManager InMemoryFileManager List

universe u

variable {α : Type u}

/-! `DeleteByPrefix` of the two storages, on the same files. -/

structure SameFiles (memory : InMemoryFileManager α) (disk : LocalFileManager α) : Prop where
  stored : ∀ path ≠ [], memory.read (pathText path) = disk.file path
  spelled : ∀ text, (memory.read text).isSome = true → ∃ path ≠ [], text = pathText path

theorem SameFiles.empty : SameFiles (α := α) .empty .empty where
  stored := fun _ _ => rfl
  spelled := fun _ stored => nomatch stored

theorem SameFiles.write (same : SameFiles memory disk) (data : α)
    (clear : disk.blocked parent = false) (free : disk.isDirectory (name :: parent) = false) :
    ∃ written, disk.write (name :: parent) data = some written ∧
      SameFiles (memory.write (pathText (name :: parent)) data) written := by
  obtain ⟨written, wrote, files, -⟩ := write_eq data clear free
  refine ⟨written, wrote, ?_, ?_⟩
  · intro path nonempty
    rw [read_write, files, same.stored path nonempty]
    refine if_congr ⟨?_, congrArg pathText⟩ rfl rfl
    exact pathText_injective nonempty (cons_ne_nil _ _)
  · intro text stored
    rw [read_write] at stored
    split at stored
    next isNew => exact ⟨name :: parent, cons_ne_nil _ _, isNew⟩
    next => exact same.spelled text stored

namespace LocalFileManager

def afterDeleteByPrefix (fm : LocalFileManager α) (start : List Char) : LocalFileManager α :=
  (fm.deleteByPrefix start).getD fm

def Takes (start : List Char) (path : Path) : Prop :=
  ∃ dir, (Lexical.dir start).within = some dir ∧ Below dir (base start) path

theorem file_afterDeleteByPrefix_of_takes (fm : LocalFileManager α) (takes : Takes start path) :
    (fm.afterDeleteByPrefix start).file path = none := by
  obtain ⟨dir, opened, below⟩ := takes
  unfold afterDeleteByPrefix
  cases directory : fm.isDirectory dir with
  | true =>
    obtain ⟨left, removed, nodes⟩ := deleteByPrefix_eq opened directory
    rw [removed, Option.getD_some, file_of_keep nodes, decide_eq_true below]
    rfl
  | false =>
    have unchanged : (fm.deleteByPrefix start).getD fm = fm := by
      simp only [deleteByPrefix, opened, directory]
      cases fm.blocked dir <;> rfl
    rw [unchanged, ← Option.not_isSome_iff_eq_none]
    intro stored
    obtain ⟨rest, name, rfl, -⟩ := below_iff.mp below
    obtain ⟨-, isDirectory⟩ := isDirectory_of_mem _ (mem_of_file stored)
    exact absurd (directory.symm.trans isDirectory) Bool.false_ne_true

theorem file_afterDeleteByPrefix_of_not_takes (fm : LocalFileManager α)
    (spared : ¬Takes start path) : (fm.afterDeleteByPrefix start).file path = fm.file path := by
  unfold afterDeleteByPrefix
  cases opened : (Lexical.dir start).within with
  | none => simp only [deleteByPrefix, opened, Option.getD_none]
  | some dir =>
    have outside : ¬Below dir (base start) path := fun below => spared ⟨dir, opened, below⟩
    cases directory : fm.isDirectory dir with
    | true =>
      obtain ⟨left, removed, nodes⟩ := deleteByPrefix_eq opened directory
      rw [removed, Option.getD_some, file_of_keep nodes, decide_eq_false outside]
      rfl
    | false =>
      simp only [deleteByPrefix, opened, directory]
      cases fm.blocked dir <;> rfl

theorem takes_iff_below (opened : (Lexical.dir start).within = some dir) :
    Takes start path ↔ Below dir (base start) path := by
  constructor
  · rintro ⟨other, otherOpened, below⟩
    rw [opened] at otherOpened
    cases otherOpened
    exact below
  · intro below
    exact ⟨dir, opened, below⟩

end LocalFileManager

open LocalFileManager

def DeletesAlike (memory : InMemoryFileManager α) (disk : LocalFileManager α) (start : List Char) :
    Prop :=
  SameFiles (memory.deleteByPrefix start) (disk.afterDeleteByPrefix start) ∧
    ∀ path ≠ [], (disk.afterDeleteByPrefix start).file path =
      if start <+: pathText path then none else disk.file path

theorem deletesAlike_iff_takes (same : SameFiles memory disk) : DeletesAlike memory disk start ↔
    ∀ path, (disk.file path).isSome = true → (Takes start path ↔ start <+: pathText path) := by
  constructor
  · rintro ⟨-, exact⟩ path stored
    have nonempty := ne_nil_of_file stored
    constructor
    · intro takes
      refine Decidable.byContradiction fun spared => ?_
      have left := exact path nonempty
      rw [file_afterDeleteByPrefix_of_takes disk takes, if_neg spared] at left
      rw [← left] at stored
      cases stored
    · intro starts
      refine Classical.byContradiction fun spared => ?_
      have left := exact path nonempty
      rw [file_afterDeleteByPrefix_of_not_takes disk spared, if_pos starts] at left
      rw [left] at stored
      cases stored
  · intro agree
    have left : ∀ path ≠ [], (disk.afterDeleteByPrefix start).file path =
        if start <+: pathText path then none else disk.file path := by
      intro path _
      cases stored : disk.file path with
      | none =>
        rw [ite_self]
        by_cases takes : Takes start path
        · exact file_afterDeleteByPrefix_of_takes disk takes
        · exact (file_afterDeleteByPrefix_of_not_takes disk takes).trans stored
      | some content =>
        have agrees := agree path (by rw [stored]; rfl)
        split
        next starts => exact file_afterDeleteByPrefix_of_takes disk (agrees.mpr starts)
        next spared =>
          exact (file_afterDeleteByPrefix_of_not_takes disk (spared ∘ agrees.mp)).trans stored
    refine ⟨⟨?_, ?_⟩, left⟩
    · intro path nonempty
      rw [read_deleteByPrefix, left path nonempty, same.stored path nonempty]
    · intro text stored
      apply same.spelled
      rw [read_deleteByPrefix] at stored
      split at stored
      · cases stored
      · exact stored

/-- The text spells a directory and the start of a name in it; or it ends in the
slash after a directory in which all that is stored begins with the name of that
directory; or it spells no directory and nothing is stored where it leads. -/
def PrefixAgrees (disk : LocalFileManager α) (start : List Char) : Prop :=
  (∃ dir first, first ≠ [] ∧ '/' ∉ first ∧ start = dirText dir ++ first) ∨
  (∃ dir, start = dirText dir ∧
    ∀ path, (disk.file path).isSome = true → Below dir [] path → Below dir (base start) path) ∨
  (∀ dir first, '/' ∉ first → start ≠ dirText dir ++ first) ∧
    ∀ path, (disk.file path).isSome = true → ¬Takes start path

theorem deletesAlike_of_name (same : SameFiles memory disk) (nonempty : first ≠ [])
    (free : '/' ∉ first) : DeletesAlike memory disk (dirText dir ++ first) := by
  rw [deletesAlike_iff_takes same]
  intro path stored
  have notRoot : path ≠ [] := ne_nil_of_file stored
  rw [takes_iff_below (Lexical.within_dir dir free), base_dirText_append dir nonempty free,
    dirText_append_prefix_iff _ free notRoot]

theorem deletesAlike_slash_iff (same : SameFiles memory disk) (dir : Path) :
    DeletesAlike memory disk (dirText dir) ↔
      ∀ path, (disk.file path).isSome = true → Below dir [] path →
        Below dir (base (dirText dir)) path := by
  have opened := Lexical.within_dir dir not_mem_nil
  rw [append_nil] at opened
  rw [deletesAlike_iff_takes same]
  refine forall_congr' fun path => ?_
  refine imp_congr_right fun stored => ?_
  have starts := dirText_append_prefix_iff dir not_mem_nil (ne_nil_of_file stored)
  rw [append_nil] at starts
  rw [takes_iff_below opened, starts]
  constructor
  · intro agree below
    exact agree.mpr below
  · intro takes
    exact ⟨fun below => below.mono nil_prefix, takes⟩

theorem deletesAlike_unspelled_iff (same : SameFiles memory disk)
    (unspelled : ∀ dir first, '/' ∉ first → start ≠ dirText dir ++ first) :
    DeletesAlike memory disk start ↔
      ∀ path, (disk.file path).isSome = true → ¬Takes start path := by
  rw [deletesAlike_iff_takes same]
  refine forall_congr' fun path => ?_
  refine imp_congr_right fun stored => ?_
  have never : ¬start <+: pathText path := by
    rw [prefix_pathText_iff (ne_nil_of_file stored)]
    rintro ⟨dir, first, free, split, -⟩
    exact unspelled dir first free split
  simp only [never, iff_false]

theorem deleteByPrefix_alike_iff {memory : InMemoryFileManager α} {disk : LocalFileManager α}
    (same : SameFiles memory disk) (start : List Char) :
    DeletesAlike memory disk start ↔ PrefixAgrees disk start := by
  constructor
  · intro alike
    by_cases spelled : ∃ dir first, '/' ∉ first ∧ start = dirText dir ++ first
    · obtain ⟨dir, first, free, rfl⟩ := spelled
      cases first with
      | nil =>
        rw [append_nil] at alike ⊢
        exact .inr (.inl ⟨dir, rfl, (deletesAlike_slash_iff same dir).mp alike⟩)
      | cons char rest => exact .inl ⟨dir, char :: rest, cons_ne_nil _ _, free, rfl⟩
    · have unspelled : ∀ dir first, '/' ∉ first → start ≠ dirText dir ++ first :=
        fun dir first free split => spelled ⟨dir, first, free, split⟩
      exact .inr (.inr ⟨unspelled, (deletesAlike_unspelled_iff same unspelled).mp alike⟩)
  · rintro (⟨dir, first, nonempty, free, rfl⟩ | ⟨dir, rfl, below⟩ | ⟨unspelled, spared⟩)
    · exact deletesAlike_of_name same nonempty free
    · exact (deletesAlike_slash_iff same dir).mpr below
    · exact (deletesAlike_unspelled_iff same unspelled).mpr spared

theorem isName_transfers : IsName "transfers".toList := by decide

theorem isName_uploadJson : IsName "upload.json".toList := by decide

def createdPath : Path := [⟨_, isName_uploadJson⟩, ⟨"abc".toList, by decide⟩, ⟨_, isName_transfers⟩]

def createdOnDisk : LocalFileManager Nat := (LocalFileManager.empty.write createdPath 1).getD .empty

def createdInMemory : InMemoryFileManager Nat :=
  InMemoryFileManager.empty.write (pathText createdPath) 1

theorem sameFiles_created : SameFiles createdInMemory createdOnDisk := by
  obtain ⟨written, wrote, same⟩ := SameFiles.empty.write 1
    (show empty.blocked createdPath.tail = false by decide)
    (show empty.isDirectory createdPath = false by decide)
  have isWritten : createdOnDisk = written := by
    unfold createdOnDisk
    rw [show empty.write createdPath 1 = some written from wrote]
    rfl
  rw [isWritten]
  exact same

theorem deleteByPrefix_alike_iff_created : SameFiles createdInMemory createdOnDisk ∧
    (DeletesAlike createdInMemory createdOnDisk "transfers/abc/".toList ↔
      PrefixAgrees createdOnDisk "transfers/abc/".toList) :=
  ⟨sameFiles_created, deleteByPrefix_alike_iff sameFiles_created _⟩

theorem session_left_on_disk : SameFiles createdInMemory createdOnDisk ∧
    ¬DeletesAlike createdInMemory createdOnDisk "transfers/abc/".toList := by
  refine ⟨sameFiles_created, ?_⟩
  rintro ⟨-, exact⟩
  have left := exact createdPath (by decide)
  cases left

end ShadowPanel.Files
