import ShadowPanel.Upload.Service

namespace ShadowPanel.Upload

open Data Files InMemoryFileManager

/-! The files of the sessions, as the storage in memory holds them. -/

inductive SessionFile where
  | metadata
  | data
  | done
  | chunk (index : Nat)
  deriving DecidableEq

namespace SessionFile

def path (uploadID : Name) : SessionFile → Path
  | .metadata => metadataPath uploadID
  | .data => dataPath uploadID
  | .done => donePath uploadID
  | .chunk index => chunkPath uploadID index

theorem path_ne_nil (uploadID : Name) (file : SessionFile) : file.path uploadID ≠ [] := by
  cases file <;> exact List.cons_ne_nil _ _

theorem path_injective {uploadID otherID : Name} {file other : SessionFile}
    (same : file.path uploadID = other.path otherID) : uploadID = otherID ∧ file = other := by
  have metadataData : metadataFileName ≠ dataFileName := by decide
  have metadataDone : metadataFileName ≠ doneFileName := by decide
  have dataDone : dataFileName ≠ doneFileName := by decide
  cases file <;> cases other <;>
    simp_all [path, metadataPath, dataPath, donePath, chunkPath, chunksDir, transferRoot,
      chunkName_injective.eq_iff, eq_comm]

theorem below_transferRoot_iff {uploadID otherID : Name} {file : SessionFile} :
    Below (transferRoot uploadID) [] (file.path otherID) ↔ otherID = uploadID := by
  cases file <;>
    simp [Below, path, metadataPath, dataPath, donePath, chunkPath, chunksDir, transferRoot]

theorem below_chunksDir_iff {uploadID otherID : Name} {file : SessionFile} :
    Below (chunksDir uploadID) [] (file.path otherID) ↔
      otherID = uploadID ∧ ∃ index, file = .chunk index := by
  cases file <;>
    simp [Below, path, metadataPath, dataPath, donePath, chunkPath, chunksDir, transferRoot]

theorem dirText_prefix_iff {dir : Path} {uploadID : Name} {file : SessionFile} :
    dirText dir <+: pathText (file.path uploadID) ↔ Below dir [] (file.path uploadID) := by
  have below := dirText_append_prefix_iff dir List.not_mem_nil (path_ne_nil uploadID file)
  rwa [List.append_nil] at below

end SessionFile

def stored (memory : InMemoryFileManager Object) (uploadID : Name) (file : SessionFile) :
    Option Object :=
  memory.read (pathText (file.path uploadID))

theorem pathText_path_eq_iff {uploadID otherID : Name} {file other : SessionFile} :
    pathText (file.path uploadID) = pathText (other.path otherID) ↔
      uploadID = otherID ∧ file = other := by
  constructor
  · intro same
    apply SessionFile.path_injective
    exact pathText_injective (SessionFile.path_ne_nil _ _) (SessionFile.path_ne_nil _ _) same
  · rintro ⟨rfl, rfl⟩
    rfl

section

variable (memory : InMemoryFileManager Object) (uploadID otherID : Name)
  (file other : SessionFile)

theorem stored_deleteRoot :
    stored (memory.deleteByPrefix (dirText (transferRoot uploadID))) otherID other =
      if otherID = uploadID then none else stored memory otherID other := by
  unfold stored
  rw [read_deleteByPrefix]
  exact if_congr (SessionFile.dirText_prefix_iff.trans SessionFile.below_transferRoot_iff) rfl rfl

theorem stored_deleteChunks_chunk (index : Nat) :
    stored (memory.deleteByPrefix (dirText (chunksDir uploadID))) otherID (.chunk index) =
      if otherID = uploadID then none else stored memory otherID (.chunk index) := by
  unfold stored
  rw [read_deleteByPrefix]
  refine if_congr ?_ rfl rfl
  rw [SessionFile.dirText_prefix_iff, SessionFile.below_chunksDir_iff]
  simp

theorem stored_deleteChunks_of_ne (different : ∀ index, other ≠ .chunk index) :
    stored (memory.deleteByPrefix (dirText (chunksDir uploadID))) otherID other =
      stored memory otherID other := by
  unfold stored
  rw [read_deleteByPrefix, if_neg]
  rw [SessionFile.dirText_prefix_iff, SessionFile.below_chunksDir_iff]
  rintro ⟨-, index, same⟩
  exact different index same

end

def OnlySessions (memory : InMemoryFileManager Object) : Prop :=
  ∀ text, (memory.read text).isSome = true → ∃ uploadID, ∃ file : SessionFile,
    text = pathText (file.path uploadID)

structure Updated (uploadID : Name) (file : SessionFile) (value : Option Object)
    (before after : InMemoryFileManager Object) : Prop where
  stored_eq : ∀ otherID other, stored after otherID other =
    if otherID = uploadID ∧ other = file then value else stored before otherID other
  only : OnlySessions before → OnlySessions after

section

variable {uploadID : Name} {file : SessionFile} {memory : InMemoryFileManager Object}

theorem updated_write (file : SessionFile) (object : Object) :
    Updated uploadID file (some object) memory
      (memory.write (pathText (file.path uploadID)) object) where
  stored_eq := by
    intro otherID other
    unfold stored
    rw [read_write]
    exact if_congr pathText_path_eq_iff rfl rfl
  only := by
    intro only text there
    rw [read_write] at there
    split at there
    next same => exact ⟨uploadID, file, same⟩
    next => exact only text there

theorem updated_delete (file : SessionFile) :
    Updated uploadID file none memory (memory.delete (pathText (file.path uploadID))) where
  stored_eq := by
    intro otherID other
    unfold stored
    rw [read_delete]
    exact if_congr pathText_path_eq_iff rfl rfl
  only := by
    intro only text there
    rw [read_delete] at there
    split at there
    · cases there
    · exact only text there

theorem Updated.stored_self (updated : Updated uploadID file value memory after) :
    stored after uploadID file = value := by
  rw [updated.stored_eq, if_pos ⟨rfl, rfl⟩]

theorem Updated.stored_of_ne {other : SessionFile}
    (updated : Updated uploadID file value memory after) (different : other ≠ file) :
    stored after uploadID other = stored memory uploadID other := by
  rw [updated.stored_eq, if_neg]
  exact fun same => different same.2

theorem Updated.trans (one : Updated uploadID file first memory middle)
    (two : Updated uploadID file second middle after) :
    Updated uploadID file second memory after where
  stored_eq := by
    intro otherID other
    rw [two.stored_eq, one.stored_eq]
    split <;> rfl
  only := two.only ∘ one.only

theorem OnlySessions.deleteByPrefix (only : OnlySessions memory) (start : List Char) :
    OnlySessions (memory.deleteByPrefix start) := by
  intro text there
  rw [read_deleteByPrefix] at there
  split at there
  · cases there
  · exact only text there

end

/-! What the calls of the service do to the storage in memory. -/

abbrev inMemory : StreamFileManager (InMemoryFileManager Object) Object :=
  InMemoryFileManager.manager

section

variable {memory : InMemoryFileManager Object} {now : Int} {uploadID : Name} {userID : Nat}
  {session : Session}

theorem load_eq_ok_iff : load inMemory memory uploadID = .ok session ↔
    stored memory uploadID .metadata = some (.session session) := by
  show load inMemory memory uploadID = _ ↔ inMemory.read memory (metadataPath uploadID) = _
  unfold load
  cases inMemory.read memory (metadataPath uploadID) with
  | none => simp
  | some object => cases object <;> simp

theorem enter_eq_ok_iff : enter inMemory now uploadID userID memory = .ok session ↔
    stored memory uploadID .metadata = some (.session session) ∧
      verifyAccess now userID session = .ok () := by
  rw [← load_eq_ok_iff]
  unfold enter
  cases load inMemory memory uploadID with
  | error error => simp [bind, Except.bind]
  | ok loaded =>
    cases access : verifyAccess now userID loaded with
    | error error =>
      simp only [bind, Except.bind, access]
      constructor
      · intro impossible
        cases impossible
      · rintro ⟨same, granted⟩
        cases same
        rw [access] at granted
        cases granted
    | ok granted =>
      simp only [bind, Except.bind, access]
      constructor
      · intro same
        cases same
        exact ⟨rfl, access⟩
      · exact And.left

theorem writeStream_inMemory (path : Path) (data : Reader Object) :
    inMemory.writeStream memory path data = if data.fails then (memory, false)
      else (memory.write (pathText path) data.content, true) :=
  rfl

theorem storeChunk_effect (session : Session) (index : Nat) (body : Reader Bytes) :
    ∃ value, Updated uploadID (.chunk index) value memory
        (storeChunk inMemory session uploadID index body memory).1 ∧
      ∀ object ∈ value, ∃ bytes, object = .bytes bytes ∧
        bytes.length = (session.chunkSizeFor index).toNat := by
  unfold storeChunk
  simp only [writeStream_inMemory]
  cases (limitReader (safeChunkLimit (session.chunkSizeFor index)) body).fails with
  | true => exact ⟨none, (updated_delete _), by simp⟩
  | false =>
    simp only [Bool.false_eq_true, if_false]
    split
    next => exact ⟨none, (updated_write _ _).trans (updated_delete _), by simp⟩
    next size =>
      refine ⟨_, updated_write _ _, ?_⟩
      rintro object ⟨⟩
      exact ⟨_, rfl, not_not.mp size⟩

theorem writeChunk_effect (index : Nat) (body : Reader Bytes) :
    (writeChunk inMemory now uploadID userID index body memory).1 = memory ∨
      ∃ session, stored memory uploadID .metadata = some (.session session) ∧
        index < session.totalChunks.toNat ∧
        (writeChunk inMemory now uploadID userID index body memory).1 =
          (storeChunk inMemory session uploadID index body memory).1 := by
  unfold writeChunk
  cases entered : enter inMemory now uploadID userID memory with
  | error error => exact .inl rfl
  | ok session =>
    simp only
    split
    · exact .inl rfl
    · split
      · exact .inl rfl
      next within =>
        exact .inr ⟨session, (enter_eq_ok_iff.mp entered).1, Nat.lt_of_not_le within, rfl⟩

theorem assemble_effect (sha256 : Bytes → List Char) (session : Session) (dispatched : Bool) :
    ∃ value middle, Updated uploadID .data value memory middle ∧
      ((assemble inMemory sha256 session uploadID dispatched memory).storage = middle ∨
        ∃ object, Updated uploadID .done (some object) middle
          (assemble inMemory sha256 session uploadID dispatched memory).storage) := by
  unfold assemble
  simp only [writeStream_inMemory]
  cases (readChunks inMemory memory uploadID (List.range session.totalChunks.toNat)).fails with
  | true => exact ⟨none, _, (updated_delete _), .inl rfl⟩
  | false =>
    simp only [Bool.false_eq_true, if_false]
    split
    · exact ⟨none, _, (updated_write _ _).trans (updated_delete _), .inl rfl⟩
    · split
      · exact ⟨none, _, (updated_write _ _).trans (updated_delete _), .inl rfl⟩
      · exact ⟨_, _, updated_write _ _, .inr ⟨_, updated_write _ _⟩⟩

theorem complete_effect (sha256 : Bytes → List Char) (node : Option Nat) (dispatched : Bool) :
    (complete inMemory sha256 now uploadID userID node dispatched memory).storage = memory ∨
      ∃ session, stored memory uploadID .metadata = some (.session session) ∧
        (complete inMemory sha256 now uploadID userID node dispatched memory).storage =
          (assemble inMemory sha256 session uploadID dispatched memory).storage := by
  unfold complete
  cases entered : enter inMemory now uploadID userID memory with
  | error error => exact .inl rfl
  | ok session =>
    simp only
    split
    · exact .inl rfl
    · split
      · exact .inl rfl
      · cases receivedChunks inMemory memory uploadID with
        | error error => exact .inl rfl
        | ok received =>
          simp only
          split
          · exact .inr ⟨session, (enter_eq_ok_iff.mp entered).1, rfl⟩
          · exact .inl rfl

theorem abort_effect : (abort inMemory now uploadID userID memory).1 = memory ∨
    (abort inMemory now uploadID userID memory).1 =
      memory.deleteByPrefix (dirText (transferRoot uploadID)) := by
  unfold abort
  split
  · exact .inl rfl
  · exact .inl rfl
  · split
    · exact .inl rfl
    · exact .inr rfl

end

theorem mem_receivedChunks {memory : InMemoryFileManager Object} (only : OnlySessions memory)
    (uploadID : Name) :
    ∃ received, receivedChunks inMemory memory uploadID = .ok received ∧
      ∀ number, number ∈ received ↔ ∃ index,
        (stored memory uploadID (.chunk index)).isSome = true ∧ readBack index = some number := by
  refine ⟨_, rfl, ?_⟩
  intro number
  rw [List.mem_toFinset, List.mem_filterMap]
  constructor
  · rintro ⟨text, listed, read⟩
    obtain ⟨there, starts⟩ := mem_list.mp listed
    obtain ⟨otherID, file, rfl⟩ := only text there
    obtain ⟨rfl, index, rfl⟩ :=
      SessionFile.below_chunksDir_iff.mp (SessionFile.dirText_prefix_iff.mp starts)
    exact ⟨index, there, (indexFromChunkPath_pathText otherID index).symm.trans read⟩
  · rintro ⟨index, there, read⟩
    refine ⟨pathText (chunkPath uploadID index), mem_list.mpr ⟨there, ?_⟩, ?_⟩
    · exact (SessionFile.dirText_prefix_iff).mpr
        (SessionFile.below_chunksDir_iff.mpr ⟨rfl, index, rfl⟩)
    · exact (indexFromChunkPath_pathText uploadID index).trans read

end ShadowPanel.Upload
