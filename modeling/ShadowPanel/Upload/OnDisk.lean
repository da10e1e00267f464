import ShadowPanel.Files.Prefixes
import ShadowPanel.Upload.Storage

namespace ShadowPanel.Upload

open Data Files List

/-! The files of the sessions, as the local storage holds them. -/

abbrev onDisk : StreamFileManager (LocalFileManager Object) Object := LocalFileManager.manager

inductive SessionDirectory : Path → Prop where
  | root : SessionDirectory []
  | all : SessionDirectory [transfers]
  | session (uploadID : Name) : SessionDirectory (transferRoot uploadID)
  | chunks (uploadID : Name) : SessionDirectory (chunksDir uploadID)

structure Shaped (disk : LocalFileManager Object) : Prop where
  files : ∀ path, (disk.file path).isSome = true → ∃ uploadID, ∃ file : SessionFile,
    path = file.path uploadID
  directories : ∀ path, disk.isDirectory path = true → SessionDirectory path

def keptAt (disk : LocalFileManager Object) (uploadID : Name) (file : SessionFile) :
    Option Object :=
  disk.file (file.path uploadID)

theorem SessionFile.path_ne_directory (uploadID : Name) (file : SessionFile) :
    ¬SessionDirectory (file.path uploadID) := by
  generalize same : file.path uploadID = path
  intro directory
  cases directory with
  | root => exact file.path_ne_nil uploadID same
  | all | session otherID =>
    cases file <;>
      simp [path, metadataPath, dataPath, donePath, chunkPath, chunksDir, transferRoot] at same
  | chunks otherID =>
    cases file with
    | chunk index => simp [path, chunkPath, chunksDir, transferRoot] at same
    | _ => exact absurd (cons.inj same).1 (by decide)

theorem SessionFile.directory_of_suffix (file : SessionFile) {path : Path}
    (above : path <:+ (file.path uploadID).tail) : SessionDirectory path := by
  have aboveRoot {other : Path} (inRoot : other <:+ transferRoot uploadID) :
      SessionDirectory other := by
    rcases suffix_cons_iff.mp inRoot with rfl | inAll
    · exact .session uploadID
    · rcases suffix_cons_iff.mp inAll with rfl | inNothing
      · exact .all
      · rw [suffix_nil.mp inNothing]
        exact .root
  cases file with
  | chunk index =>
    rcases suffix_cons_iff.mp above with rfl | inRoot
    · exact .chunks uploadID
    · exact aboveRoot inRoot
  | _ => exact aboveRoot above

namespace Shaped

theorem empty : Shaped .empty where
  files := fun _ there => nomatch there
  directories := by
    intro path directory
    cases path with
    | nil => exact .root
    | cons name parent => cases directory

theorem not_isDirectory (shaped : Shaped disk) (uploadID : Name) (file : SessionFile) :
    disk.isDirectory (file.path uploadID) = false := by
  rw [Bool.eq_false_iff]
  intro directory
  exact file.path_ne_directory uploadID (shaped.directories _ directory)

theorem not_blocked (shaped : Shaped disk)
    (within : ∀ other, other <:+ path → SessionDirectory other) : disk.blocked path = false := by
  induction path with
  | nil => rfl
  | cons name parent ih =>
    refine Bool.or_eq_false_iff.mpr ⟨?_, ?_⟩
    · rw [Bool.eq_false_iff]
      intro there
      obtain ⟨uploadID, file, same⟩ := shaped.files _ there
      apply file.path_ne_directory uploadID
      rw [← same]
      exact within _ suffix_rfl
    · apply ih
      intro other above
      exact within other (above.trans (suffix_cons name parent))

theorem existsAt_eq (shaped : Shaped disk) (uploadID : Name) (file : SessionFile) :
    onDisk.existsAt disk (file.path uploadID) = (keptAt disk uploadID file).isSome := by
  show disk.existsAt (file.path uploadID) = _
  rw [LocalFileManager.existsAt_eq, shaped.not_isDirectory, Bool.or_false]
  rfl

end Shaped

structure UpdatedOnDisk (uploadID : Name) (file : SessionFile) (value : Option Object)
    (before after : LocalFileManager Object) : Prop where
  kept_eq : ∀ otherID other, keptAt after otherID other =
    if otherID = uploadID ∧ other = file then value else keptAt before otherID other
  shaped : Shaped after
  grows : ∀ path, before.isDirectory path = true → after.isDirectory path = true

namespace UpdatedOnDisk

variable {after : LocalFileManager Object}

theorem trans (one : UpdatedOnDisk uploadID file first before middle)
    (two : UpdatedOnDisk uploadID file second middle after) :
    UpdatedOnDisk uploadID file second before after where
  kept_eq := by
    intro otherID other
    rw [two.kept_eq, one.kept_eq]
    split <;> rfl
  shaped := two.shaped
  grows := fun path => two.grows path ∘ one.grows path

end UpdatedOnDisk

section

theorem path_eq_iff {file : SessionFile} :
    other.path otherID = file.path uploadID ↔ otherID = uploadID ∧ other = file := by
  constructor
  · exact SessionFile.path_injective
  · rintro ⟨rfl, rfl⟩
    rfl

variable (shaped : Shaped disk)

include shaped

theorem Shaped.write (uploadID : Name) (file : SessionFile) (object : Object) :
    ∃ written, disk.write (file.path uploadID) object = some written ∧
      UpdatedOnDisk uploadID file (some object) disk written ∧
      written.isDirectory (file.path uploadID).tail = true := by
  have clear : disk.blocked (file.path uploadID).tail = false :=
    shaped.not_blocked fun _ above => SessionFile.directory_of_suffix _ above
  have free := shaped.not_isDirectory uploadID file
  obtain ⟨name, parent, shape⟩ := exists_cons_of_ne_nil (file.path_ne_nil uploadID)
  have around {path : Path} (above : path <:+ parent) : SessionDirectory path := by
    apply SessionFile.directory_of_suffix file
    rw [shape]
    exact above
  rw [shape, tail_cons] at clear
  rw [shape] at free
  obtain ⟨written, wrote, files, directories⟩ := LocalFileManager.write_eq object clear free
  rw [shape]
  refine ⟨written, wrote, ⟨?_, ⟨?_, ?_⟩, ?_⟩, ?_⟩
  · intro otherID other
    unfold keptAt
    rw [files, ← shape]
    exact if_congr path_eq_iff rfl rfl
  · intro path there
    rw [files] at there
    split at there
    next same => exact ⟨uploadID, file, same.trans shape.symm⟩
    next => exact shaped.files path there
  · intro path directory
    cases (directories path).mp directory with
    | inl before => exact shaped.directories path before
    | inr above => exact around above
  · intro path before
    exact (directories path).mpr (.inl before)
  · exact (directories _).mpr (.inr suffix_rfl)

theorem Shaped.deleteQuietly (uploadID : Name) (file : SessionFile) :
    UpdatedOnDisk uploadID file none disk (deleteQuietly onDisk disk (file.path uploadID)) := by
  unfold Upload.deleteQuietly
  cases kept : disk.file (file.path uploadID) with
  | none =>
    have absent : ¬(file.path uploadID ∈ disk.nodes ∧
        disk.entriesOf (file.path uploadID) = []) := by
      rintro ⟨member, -⟩
      have there : disk.existsAt (file.path uploadID) = true := by
        rw [← AList.lookup_isSome] at member
        unfold LocalFileManager.existsAt
        rw [member, Bool.or_true]
      rw [LocalFileManager.existsAt_eq, kept, shaped.not_isDirectory] at there
      cases there
    have failed : onDisk.delete disk (file.path uploadID) = none := dif_neg absent
    rw [failed]
    refine ⟨?_, shaped, fun _ => id⟩
    intro otherID other
    split
    next same => rw [same.1, same.2, Option.getD_none, keptAt, kept]
    next => rfl
  | some object =>
    obtain ⟨left, deleted, files, directories⟩ :=
      LocalFileManager.delete_file (show (disk.file (file.path uploadID)).isSome = true by
        rw [kept]; rfl)
    rw [show onDisk.delete disk (file.path uploadID) = some left from deleted, Option.getD_some]
    refine ⟨?_, ⟨?_, ?_⟩, ?_⟩
    · intro otherID other
      unfold keptAt
      rw [files]
      exact if_congr path_eq_iff rfl rfl
    · intro path there
      rw [files] at there
      split at there
      · cases there
      · exact shaped.files path there
    · intro path directory
      rw [directories] at directory
      exact shaped.directories path directory
    · intro path before
      rw [directories]
      exact before

theorem Shaped.of_keep (nodes : left.nodes = disk.nodes.keep kept) : Shaped left where
  files := by
    intro path there
    apply shaped.files path
    rw [LocalFileManager.file_of_keep nodes] at there
    split at there
    · exact there
    · cases there
  directories := by
    intro path directory
    apply shaped.directories path
    unfold LocalFileManager.isDirectory isDirectoryIn at directory ⊢
    rw [nodes, Table.lookup_keep] at directory
    cases stays : kept path with
    | true => simpa [stays] using directory
    | false =>
      rw [stays] at directory
      cases path with
      | nil => rfl
      | cons name parent => cases directory

theorem Shaped.deleteByPrefix (known : SessionDirectory dir) :
    ∃ left, disk.deleteByPrefix (dirText dir) = some left ∧ Shaped left ∧
      ∀ path, ¬Below dir [] path →
        left.file path = disk.file path ∧ left.isDirectory path = disk.isDirectory path := by
  have opened := Lexical.within_dir dir not_mem_nil
  rw [append_nil] at opened
  cases directory : disk.isDirectory dir with
  | true =>
    obtain ⟨left, removed, nodes⟩ := LocalFileManager.deleteByPrefix_eq opened directory
    refine ⟨left, removed, shaped.of_keep nodes, ?_⟩
    intro path outside
    have stays : ¬Below dir (base (dirText dir)) path :=
      fun below => outside (below.mono nil_prefix)
    constructor
    · rw [LocalFileManager.file_of_keep nodes, decide_eq_false stays]
      rfl
    · unfold LocalFileManager.isDirectory isDirectoryIn
      rw [nodes, Table.lookup_keep, decide_eq_false stays]
      rfl
  | false =>
    have clear : disk.blocked dir = false := by
      apply shaped.not_blocked
      intro other above
      cases known with
      | root =>
        rw [suffix_nil.mp above]
        exact .root
      | all =>
        rcases suffix_cons_iff.mp above with rfl | inNothing
        · exact .all
        · rw [suffix_nil.mp inNothing]
          exact .root
      | session uploadID =>
        exact SessionFile.directory_of_suffix .metadata above
      | chunks uploadID =>
        exact SessionFile.directory_of_suffix (.chunk 0) above
    refine ⟨disk, ?_, shaped, fun _ _ => ⟨rfl, rfl⟩⟩
    simp only [LocalFileManager.deleteByPrefix, opened, directory, clear, Bool.false_eq_true,
      if_false]

theorem Shaped.mem_receivedChunks (made : disk.isDirectory (chunksDir uploadID) = true) :
    ∃ received, receivedChunks onDisk disk uploadID = .ok received ∧
      ∀ number, number ∈ received ↔ ∃ index,
        (keptAt disk uploadID (.chunk index)).isSome = true ∧ readBack index = some number := by
  have listed : onDisk.list disk (chunksDir uploadID) =
      some ((disk.entriesOf (chunksDir uploadID)).map fun entry => entry.name.text) := if_pos made
  refine ⟨((((disk.entriesOf (chunksDir uploadID)).map fun entry => entry.name.text).filterMap
    (indexFromChunkPath uploadID)).toFinset), ?_, ?_⟩
  · simp only [receivedChunks, listed]
  · intro number
    rw [mem_toFinset, mem_filterMap]
    constructor
    · rintro ⟨text, inside, read⟩
      obtain ⟨entry, isEntry, rfl⟩ := mem_map.mp inside
      obtain ⟨member, kind⟩ := LocalFileManager.mem_of_mem_entriesOf isEntry
      have noDirectory : disk.isDirectory (entry.name :: chunksDir uploadID) = false := by
        rw [Bool.eq_false_iff]
        intro directory
        have known := shaped.directories _ directory
        generalize same : entry.name :: chunksDir uploadID = path at known
        cases known <;> simp [chunksDir, transferRoot] at same
      have there : (disk.file (entry.name :: chunksDir uploadID)).isSome = true := by
        have present : disk.existsAt (entry.name :: chunksDir uploadID) = true := by
          rw [← AList.lookup_isSome] at member
          unfold LocalFileManager.existsAt
          rw [member, Bool.or_true]
        rwa [LocalFileManager.existsAt_eq, noDirectory, Bool.or_false] at present
      obtain ⟨otherID, file, same⟩ := shaped.files _ there
      cases file with
      | chunk index =>
        obtain ⟨name, dirs⟩ := cons.inj same
        refine ⟨index, ?_, ?_⟩
        · rw [name] at there
          exact there
        · rw [← read, name]
          exact (indexFromChunkPath_name uploadID index).symm
      | metadata => simp [SessionFile.path, metadataPath, chunksDir, transferRoot] at same
      | data => simp [SessionFile.path, dataPath, chunksDir, transferRoot] at same
      | done => simp [SessionFile.path, donePath, chunksDir, transferRoot] at same
    · rintro ⟨index, there, read⟩
      refine ⟨(chunkName index).text, ?_, (indexFromChunkPath_name uploadID index).trans read⟩
      obtain ⟨node, found⟩ :=
        Option.isSome_iff_exists.mp (AList.lookup_isSome.mpr (LocalFileManager.mem_of_file there))
      exact mem_map.mpr ⟨⟨chunkName index, node.isDir⟩,
        LocalFileManager.mem_entriesOf.mpr ⟨node, found, rfl⟩, rfl⟩

end

end ShadowPanel.Upload
