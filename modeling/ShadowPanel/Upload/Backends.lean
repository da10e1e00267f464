import ShadowPanel.Upload.OnDisk
import ShadowPanel.Upload.Status

namespace ShadowPanel.Upload

open Data Files Upload.Setup SessionFile

universe u v

/-! The service over the storage in memory and over the local one, call by call. -/

section

variable {σ : Type u} {τ : Type v} {one : σ} {two : τ}

theorem load_congr
    (same : fm.read one (metadataPath uploadID) = gm.read two (metadataPath uploadID)) :
    load fm one uploadID = load gm two uploadID := by
  unfold load
  rw [same]

private theorem readChunks_congr
    (same : ∀ index, fm.readStream one (chunkPath uploadID index) =
      gm.readStream two (chunkPath uploadID index)) (indices : List Nat) :
    readChunks fm one uploadID indices = readChunks gm two uploadID indices := by
  induction indices with
  | nil => rfl
  | cons index rest ih =>
    unfold readChunks
    rw [same, ih]

end

section

variable {memory : InMemoryFileManager Object} {disk : LocalFileManager Object}

def AlikeOn (picked : SessionFile → Prop) (memory : InMemoryFileManager Object)
    (disk : LocalFileManager Object) (uploadID : Name) : Prop :=
  ∀ file, picked file → stored memory uploadID file = keptAt disk uploadID file

theorem Shaped.writeStream (shaped : Shaped disk) (uploadID : Name) (file : SessionFile)
    (data : Reader Object) :
    ∃ written, onDisk.writeStream disk (file.path uploadID) data = (written, !data.fails) ∧
      UpdatedOnDisk uploadID file (some data.content) disk written ∧
      written.isDirectory (file.path uploadID).tail = true := by
  obtain ⟨written, wrote, updated, made⟩ := shaped.write uploadID file data.content
  refine ⟨written, ?_, updated, made⟩
  show LocalFileManager.writeStream disk (file.path uploadID) data = _
  unfold LocalFileManager.writeStream
  rw [wrote]

private theorem storeChunk_alike (shaped : Shaped disk) (session : Session) (index : Nat)
    (body : Reader Bytes) :
    ∃ value, Updated uploadID (.chunk index) value memory
        (storeChunk inMemory session uploadID index body memory).1 ∧
      UpdatedOnDisk uploadID (.chunk index) value disk
        (storeChunk onDisk session uploadID index body disk).1 ∧
      (storeChunk onDisk session uploadID index body disk).1.isDirectory (chunksDir uploadID) =
        true ∧
      (storeChunk inMemory session uploadID index body memory).2 =
        (storeChunk onDisk session uploadID index body disk).2 := by
  obtain ⟨written, wrote, updated, made⟩ := shaped.writeStream uploadID (.chunk index)
    ⟨.bytes (limitReader (safeChunkLimit (session.chunkSizeFor index)) body).content,
      (limitReader (safeChunkLimit (session.chunkSizeFor index)) body).fails⟩
  have removed := updated.shaped.deleteQuietly uploadID (.chunk index)
  have onDiskPath : path uploadID (.chunk index) = chunkPath uploadID index := rfl
  rw [onDiskPath] at wrote removed
  unfold storeChunk
  simp only [writeStream_inMemory, wrote]
  cases (limitReader (safeChunkLimit (session.chunkSizeFor index)) body).fails with
  | true => exact ⟨none, (updated_delete _), updated.trans removed, removed.grows _ made, rfl⟩
  | false =>
    simp only [Bool.false_eq_true, if_false]
    split
    · exact ⟨none, (updated_write _ _).trans (updated_delete _), updated.trans removed,
        removed.grows _ made, rfl⟩
    · exact ⟨_, updated_write _ _, updated, made, rfl⟩

private theorem assemble_alike (shaped : Shaped disk) (sha256 : Bytes → List Char)
    (session : Session) (dispatched : Bool)
    (chunks : AlikeOn (fun file => ∃ index, file = .chunk index) memory disk uploadID) :
    ∃ value middle middleOnDisk, Updated uploadID .data value memory middle ∧
      UpdatedOnDisk uploadID .data value disk middleOnDisk ∧
      (assemble inMemory sha256 session uploadID dispatched memory).result =
        (assemble onDisk sha256 session uploadID dispatched disk).result ∧
      (assemble inMemory sha256 session uploadID dispatched memory).cleanup =
        (assemble onDisk sha256 session uploadID dispatched disk).cleanup ∧
      ((assemble inMemory sha256 session uploadID dispatched memory).storage = middle ∧
          (assemble onDisk sha256 session uploadID dispatched disk).storage = middleOnDisk ∧
          (assemble inMemory sha256 session uploadID dispatched memory).cleanup = false ∨
        ∃ object, Updated uploadID .done (some object) middle
            (assemble inMemory sha256 session uploadID dispatched memory).storage ∧
          UpdatedOnDisk uploadID .done (some object) middleOnDisk
            (assemble onDisk sha256 session uploadID dispatched disk).storage) := by
  have same : readChunks onDisk disk uploadID (List.range session.totalChunks.toNat) =
      readChunks inMemory memory uploadID (List.range session.totalChunks.toNat) :=
    (readChunks_congr (fun index => chunks (.chunk index) ⟨index, rfl⟩) _).symm
  unfold assemble
  rw [same]
  generalize readChunks inMemory memory uploadID (List.range session.totalChunks.toNat) = data
  obtain ⟨written, wrote, updated, -⟩ :=
    shaped.writeStream uploadID .data ⟨.bytes data.content, data.fails⟩
  have removed := updated.shaped.deleteQuietly uploadID .data
  have onDiskPath : path uploadID .data = dataPath uploadID := rfl
  rw [onDiskPath] at wrote removed
  simp only [writeStream_inMemory, wrote]
  cases data.fails with
  | true =>
    exact ⟨none, _, _, (updated_delete _), updated.trans removed, rfl, rfl, .inl ⟨rfl, rfl, rfl⟩⟩
  | false =>
    simp only [Bool.false_eq_true, if_false, Bool.not_false]
    split
    · exact ⟨none, _, _, (updated_write _ _).trans (updated_delete _), updated.trans removed, rfl,
        rfl, .inl ⟨rfl, rfl, rfl⟩⟩
    · split
      · exact ⟨none, _, _, (updated_write _ _).trans (updated_delete _), updated.trans removed, rfl,
          rfl, .inl ⟨rfl, rfl, rfl⟩⟩
      · obtain ⟨finished, finish, sentinel, -⟩ := updated.shaped.write uploadID .done
          (.done ⟨true, sha256 data.content⟩)
        have ended : onDisk.write written (donePath uploadID)
            (.done ⟨true, sha256 data.content⟩) = some finished := finish
        refine ⟨_, _, _, updated_write _ _, updated, rfl, rfl, .inr ⟨_, updated_write _ _, ?_⟩⟩
        rw [ended]
        exact sentinel

theorem receivedChunks_alike (only : OnlySessions memory) (shaped : Shaped disk)
    (made : disk.isDirectory (chunksDir uploadID) = true)
    (chunks : AlikeOn (fun file => ∃ index, file = .chunk index) memory disk uploadID) :
    receivedChunks inMemory memory uploadID = receivedChunks onDisk disk uploadID := by
  obtain ⟨received, listed, members⟩ := mem_receivedChunks only uploadID
  obtain ⟨onDiskReceived, onDiskListed, onDiskMembers⟩ := shaped.mem_receivedChunks made
  rw [listed, onDiskListed]
  congr 1
  ext number
  rw [members, onDiskMembers]
  refine exists_congr fun index => and_congr_left fun _ => ?_
  rw [chunks (.chunk index) ⟨index, rfl⟩]

end

/-- The sessions whose abort has deleted something, those whose clean-up has run,
and those of which a chunk has reached the storage. -/
structure History where
  aborted : List Name
  cleaned : List Name
  written : List Name

/-- The storages agree on the files of every session that was not aborted, the
chunks of a cleaned one apart. -/
structure Mirrored (past : History) (cleanups : List Name) (memory : InMemoryFileManager Object)
    (disk : LocalFileManager Object) : Prop where
  only : OnlySessions memory
  shaped : Shaped disk
  alike : ∀ uploadID, uploadID ∉ past.aborted →
    AlikeOn (fun file => uploadID ∈ past.cleaned → ∀ index, file ≠ .chunk index)
      memory disk uploadID
  made : ∀ uploadID ∈ past.written, uploadID ∉ past.aborted →
    disk.isDirectory (chunksDir uploadID) = true
  finished : ∀ uploadID, uploadID ∈ cleanups ∨ uploadID ∈ past.cleaned →
    uploadID ∉ past.aborted → (stored memory uploadID .done).isSome = true
  named : ∀ uploadID session, stored memory uploadID .metadata = some (.session session) →
    session.uploadID = uploadID

namespace Mirrored

theorem empty : Mirrored ⟨[], [], []⟩ [] .empty .empty where
  only := fun _ there => nomatch there
  shaped := .empty
  alike := fun _ _ _ _ => rfl
  made := fun _ written => nomatch written
  finished := fun _ ended => nomatch ended
  named := fun _ _ found => nomatch found

variable (mirrored : Mirrored past cleanups memory disk)

include mirrored

section

variable (live : uploadID ∉ past.aborted)

include live

theorem metadata :
    inMemory.read memory (metadataPath uploadID) = onDisk.read disk (metadataPath uploadID) :=
  mirrored.alike uploadID live .metadata fun _ _ => nofun

theorem enter_eq (now : Int) (userID : Nat) :
    enter onDisk now uploadID userID disk = enter inMemory now uploadID userID memory := by
  unfold enter
  rw [load_congr (mirrored.metadata live)]

theorem done_eq :
    onDisk.existsAt disk (donePath uploadID) = (stored memory uploadID .done).isSome := by
  rw [mirrored.alike uploadID live .done fun _ _ => nofun]
  exact mirrored.shaped.existsAt_eq uploadID .done

theorem chunks (uncleaned : uploadID ∉ past.cleaned) :
    AlikeOn (fun file => ∃ index, file = .chunk index) memory disk uploadID :=
  fun file _ => mirrored.alike uploadID live file fun cleaned => absurd cleaned uncleaned

private theorem uncleaned (unfinished : stored memory uploadID .done = none) :
    uploadID ∉ past.cleaned := by
  intro cleaned
  have ended := mirrored.finished uploadID (.inr cleaned) live
  rw [unfinished] at ended
  cases ended

end

theorem updated (change : Updated uploadID file value memory after)
    (changeOnDisk : UpdatedOnDisk uploadID file value disk afterOnDisk)
    (sentinel : file = .done → value.isSome = true)
    (named : file = .metadata → ∀ session, value = some (.session session) →
      session.uploadID = uploadID) : Mirrored past cleanups after afterOnDisk where
  only := change.only mirrored.only
  shaped := changeOnDisk.shaped
  alike := by
    intro otherID live other picked
    rw [change.stored_eq, changeOnDisk.kept_eq, mirrored.alike otherID live other picked]
  made := by
    intro otherID written live
    exact changeOnDisk.grows _ (mirrored.made otherID written live)
  finished := by
    intro otherID ended live
    rw [change.stored_eq]
    split
    next same => exact sentinel same.2.symm
    next => exact mirrored.finished otherID ended live
  named := by
    intro otherID session found
    rw [change.stored_eq] at found
    split at found
    next same => exact (named same.2.symm session found).trans same.1.symm
    next => exact mirrored.named otherID session found

theorem wrote (made : disk.isDirectory (chunksDir uploadID) = true) :
    Mirrored { past with written := uploadID :: past.written } cleanups memory disk where
  only := mirrored.only
  shaped := mirrored.shaped
  alike := mirrored.alike
  made := by
    intro otherID written live
    cases List.mem_cons.mp written with
    | inl same => exact same ▸ made
    | inr before => exact mirrored.made otherID before live
  finished := mirrored.finished
  named := mirrored.named

private theorem cleanup_started (done : (stored memory uploadID .done).isSome = true) :
    Mirrored past (uploadID :: cleanups) memory disk where
  only := mirrored.only
  shaped := mirrored.shaped
  alike := mirrored.alike
  made := mirrored.made
  finished := by
    rintro otherID (pending | cleaned) live
    · cases List.mem_cons.mp pending with
      | inl same => exact same ▸ done
      | inr before => exact mirrored.finished otherID (.inl before) live
    · exact mirrored.finished otherID (.inr cleaned) live
  named := mirrored.named

private theorem aborted (uploadID : Name) :
    ∃ left, disk.deleteByPrefix (dirText (transferRoot uploadID)) = some left ∧
      Mirrored { past with aborted := uploadID :: past.aborted } cleanups
        (memory.deleteByPrefix (dirText (transferRoot uploadID))) left := by
  obtain ⟨left, deleted, shaped, elsewhere⟩ :=
    mirrored.shaped.deleteByPrefix (.session uploadID)
  refine ⟨left, deleted, mirrored.only.deleteByPrefix _, shaped, ?_, ?_, ?_, ?_⟩
  · intro otherID live file picked
    obtain ⟨different, before⟩ := not_or.mp (fun either => live (List.mem_cons.mpr either))
    rw [stored_deleteRoot, if_neg different, mirrored.alike otherID before file picked]
    exact (elsewhere _ (different ∘ below_transferRoot_iff.mp)).1.symm
  · intro otherID written live
    obtain ⟨different, before⟩ := not_or.mp (fun either => live (List.mem_cons.mpr either))
    rw [(elsewhere _ (by simp [Below, chunksDir, transferRoot, different])).2]
    exact mirrored.made otherID written before
  · intro otherID ended live
    obtain ⟨different, before⟩ := not_or.mp (fun either => live (List.mem_cons.mpr either))
    rw [stored_deleteRoot, if_neg different]
    exact mirrored.finished otherID ended before
  · intro otherID session found
    rw [stored_deleteRoot] at found
    split at found
    · cases found
    · exact mirrored.named otherID session found

theorem cleaned (pending : uploadID ∈ cleanups) :
    Mirrored { past with cleaned := uploadID :: past.cleaned } (cleanups.erase uploadID)
      (cleanupAfterComplete inMemory uploadID memory)
      (cleanupAfterComplete onDisk uploadID disk) := by
  obtain ⟨left, deleted, shaped, elsewhere⟩ :=
    mirrored.shaped.deleteByPrefix (.chunks uploadID)
  have outside {otherID : Name} {file : SessionFile}
      (spared : otherID = uploadID → ∀ index, file ≠ .chunk index) :
      ¬Below (chunksDir uploadID) [] (file.path otherID) := by
    rw [below_chunksDir_iff]
    rintro ⟨same, index, isChunk⟩
    exact spared same index isChunk
  have middle : Mirrored { past with cleaned := uploadID :: past.cleaned }
      (cleanups.erase uploadID) (memory.deleteByPrefix (dirText (chunksDir uploadID))) left := by
    refine ⟨mirrored.only.deleteByPrefix _, shaped, ?_, ?_, ?_, ?_⟩
    · intro otherID live file picked
      have spared : otherID = uploadID → ∀ index, file ≠ .chunk index :=
        fun same => picked (same ▸ List.mem_cons_self)
      have before := mirrored.alike otherID live file
        fun cleaned => picked (List.mem_cons_of_mem _ cleaned)
      have kept : keptAt left otherID file = keptAt disk otherID file :=
        (elsewhere _ (outside spared)).1
      rw [kept, ← before]
      unfold stored
      rw [InMemoryFileManager.read_deleteByPrefix, if_neg]
      exact outside spared ∘ dirText_prefix_iff.mp
    · intro otherID written live
      rw [(elsewhere _ (by simp [Below, chunksDir, transferRoot])).2]
      exact mirrored.made otherID written live
    · intro otherID ended live
      rw [stored_deleteChunks_of_ne _ _ _ _ (by simp)]
      apply mirrored.finished otherID ?_ live
      rcases ended with pendingStill | isCleaned
      · exact .inl (List.mem_of_mem_erase pendingStill)
      · cases List.mem_cons.mp isCleaned with
        | inl same => exact .inl (same ▸ pending)
        | inr before => exact .inr before
    · intro otherID session found
      rw [stored_deleteChunks_of_ne _ _ _ _ (by simp)] at found
      exact mirrored.named otherID session found
  have removed := shaped.deleteQuietly uploadID .data
  have final := middle.updated (updated_delete _) removed (by simp) (by simp)
  unfold cleanupAfterComplete
  rw [show onDisk.deleteByPrefix disk (dirText (chunksDir uploadID)) = some left from deleted]
  exact final

end Mirrored

structure Matching (past : History) (cleanups : List Name) (uploadID : Name)
    (one : Completion (InMemoryFileManager Object)) (two : Completion (LocalFileManager Object)) :
    Prop where
  result : one.result = two.result
  cleanup : one.cleanup = two.cleanup
  mirrored : Mirrored past (if one.cleanup then uploadID :: cleanups else cleanups) one.storage
    two.storage

namespace Mirrored

variable (mirrored : Mirrored past cleanups memory disk)

include mirrored

theorem failed (error : UploadError) :
    Matching past cleanups uploadID (.failed memory error) (.failed disk error) :=
  ⟨rfl, rfl, mirrored⟩

theorem assemble (chunks : AlikeOn (fun file => ∃ index, file = .chunk index) memory disk uploadID)
    (sha256 : Bytes → List Char) (session : Session) (dispatched : Bool) :
    Matching past cleanups uploadID (assemble inMemory sha256 session uploadID dispatched memory)
      (assemble onDisk sha256 session uploadID dispatched disk) := by
  obtain ⟨value, middle, middleOnDisk, change, changeOnDisk, results, sameCleanup, rest⟩ :=
    assemble_alike mirrored.shaped sha256 session dispatched chunks
  have assembled := mirrored.updated change changeOnDisk (by simp) (by simp)
  refine ⟨results, sameCleanup, ?_⟩
  rcases rest with ⟨after, afterOnDisk, noCleanup⟩ | ⟨object, sentinel, sentinelOnDisk⟩
  · rw [after, afterOnDisk, noCleanup]
    exact assembled
  · have finished := assembled.updated sentinel sentinelOnDisk (by simp) (by simp)
    split
    · apply finished.cleanup_started
      rw [sentinel.stored_self]
      rfl
    · exact finished

theorem complete (live : uploadID ∉ past.aborted)
    (listed : ∀ session, enter inMemory now uploadID userID memory = .ok session →
      node = some session.nodeID → stored memory uploadID .done = none → uploadID ∈ past.written)
    (sha256 : Bytes → List Char) (dispatched : Bool) :
    Matching past cleanups uploadID
      (complete inMemory sha256 now uploadID userID node dispatched memory)
      (complete onDisk sha256 now uploadID userID node dispatched disk) := by
  unfold Upload.complete
  rw [mirrored.enter_eq live now userID]
  cases entered : enter inMemory now uploadID userID memory with
  | error error => exact mirrored.failed error
  | ok session =>
    simp only [mirrored.done_eq live, show inMemory.existsAt memory (donePath uploadID) =
      (stored memory uploadID .done).isSome from rfl]
    split
    · exact mirrored.failed _
    next sameNode =>
      split
      · exact ⟨rfl, rfl, mirrored⟩
      next unfinished =>
        have noSentinel : stored memory uploadID .done = none :=
          Option.not_isSome_iff_eq_none.mp unfinished
        have written := listed session entered (not_not.mp sameNode) noSentinel
        have chunks := mirrored.chunks live (mirrored.uncleaned live noSentinel)
        rw [← receivedChunks_alike mirrored.only mirrored.shaped
          (mirrored.made uploadID written live) chunks]
        cases receivedChunks inMemory memory uploadID with
        | error error => exact mirrored.failed error
        | ok indices =>
          simp only
          split
          · exact mirrored.assemble chunks sha256 session dispatched
          · exact mirrored.failed _

end Mirrored

structure Twin where
  memory : ServiceState (InMemoryFileManager Object)
  disk : ServiceState (LocalFileManager Object)
  past : History

namespace Twin

def fresh : Twin := ⟨.initial, ⟨.empty, 0, []⟩, ⟨[], [], []⟩⟩

def aborts (twin : Twin) : Call → List Name
  | .abort now uploadID userID =>
    match enter inMemory now uploadID userID twin.memory.storage with
    | .error _ => []
    | .ok _ => [uploadID]
  | _ => []

def cleans (twin : Twin) : Call → List Name
  | .cleanup uploadID => if uploadID ∈ twin.memory.cleanups then [uploadID] else []
  | _ => []

def writes (twin : Twin) : Call → List Name
  | .writeChunk now uploadID userID index _ =>
    match enter inMemory now uploadID userID twin.memory.storage with
    | .error _ => []
    | .ok session =>
      if (stored twin.memory.storage uploadID .done).isSome then []
      else if session.totalChunks.toNat ≤ index then []
      else [uploadID]
  | _ => []

def step (setup : Setup) (twin : Twin) (call : Call) : Twin where
  memory := (setup.respond inMemory twin.memory call).1
  disk := (setup.respond onDisk twin.disk call).1
  past := {
    aborted := twin.aborts call ++ twin.past.aborted
    cleaned := twin.cleans call ++ twin.past.cleaned
    written := twin.writes call ++ twin.past.written }

/-- No call on a session after its abort, no status after the clean-up of a
completed session, and no listing of chunks before one has reached the storage. -/
def Admitted (twin : Twin) : Call → Prop
  | .create _ _ | .cleanup _ => True
  | .writeChunk _ uploadID _ _ _ | .abort _ uploadID _ => uploadID ∉ twin.past.aborted
  | .status now uploadID userID =>
    uploadID ∉ twin.past.aborted ∧
      ∀ session, enter inMemory now uploadID userID twin.memory.storage = .ok session →
        uploadID ∉ twin.past.cleaned ∧ uploadID ∈ twin.past.written
  | .complete now uploadID userID node _ =>
    uploadID ∉ twin.past.aborted ∧
      ∀ session, enter inMemory now uploadID userID twin.memory.storage = .ok session →
        node = some session.nodeID → stored twin.memory.storage uploadID .done = none →
          uploadID ∈ twin.past.written

structure Agreeing (twin : Twin) : Prop where
  issued : twin.memory.issued = twin.disk.issued
  cleanups : twin.memory.cleanups = twin.disk.cleanups
  mirrored : Mirrored twin.past twin.memory.cleanups twin.memory.storage twin.disk.storage

def SameAnswer (setup : Setup) (twin : Twin) (call : Call) : Prop :=
  (setup.respond inMemory twin.memory call).2 = (setup.respond onDisk twin.disk call).2

section

variable (agreeing : Agreeing twin)

include agreeing

theorem Agreeing.create (now : Int) (params : CreateParams) :
    SameAnswer setup twin (.create now params) ∧
      Agreeing (twin.step setup (.create now params)) := by
  unfold SameAnswer step
  simp only [respond, Upload.create, ← agreeing.issued]
  cases made : newSession setup.cfg now (setup.ids.new twin.memory.issued) params with
  | error error => exact ⟨rfl, rfl, agreeing.cleanups, agreeing.mirrored⟩
  | ok session =>
    obtain ⟨written, wrote, updated, -⟩ := agreeing.mirrored.shaped.write
      (setup.ids.new twin.memory.issued) .metadata (.session session)
    have onDiskWrote : onDisk.write twin.disk.storage
        (metadataPath (setup.ids.new twin.memory.issued)) (.session session) = some written :=
      wrote
    simp only [onDiskWrote]
    refine ⟨rfl, rfl, agreeing.cleanups, ?_⟩
    refine agreeing.mirrored.updated (updated_write _ _) updated (by simp) ?_
    rintro - other ⟨⟩
    exact (Made.of_newSession made).uploadID_eq

theorem Agreeing.writeChunk (live : uploadID ∉ twin.past.aborted) (now : Int) (userID index : Nat)
    (body : Reader Bytes) :
    SameAnswer setup twin (.writeChunk now uploadID userID index body) ∧
      Agreeing (twin.step setup (.writeChunk now uploadID userID index body)) := by
  have mirrored := agreeing.mirrored
  unfold SameAnswer step
  simp only [respond, Upload.writeChunk, writes,
    mirrored.enter_eq live now userID, mirrored.done_eq live]
  cases enter inMemory now uploadID userID twin.memory.storage with
  | error error => exact ⟨rfl, agreeing.issued, agreeing.cleanups, mirrored⟩
  | ok session =>
    simp only [show inMemory.existsAt twin.memory.storage (donePath uploadID) =
      (stored twin.memory.storage uploadID .done).isSome from rfl]
    split
    · exact ⟨rfl, agreeing.issued, agreeing.cleanups, mirrored⟩
    · split
      · exact ⟨rfl, agreeing.issued, agreeing.cleanups, mirrored⟩
      · obtain ⟨value, change, changeOnDisk, made, same⟩ :=
          storeChunk_alike mirrored.shaped session index body
        refine ⟨congrArg Answer.ended same, agreeing.issued, agreeing.cleanups, ?_⟩
        exact (mirrored.updated change changeOnDisk (by simp) (by simp)).wrote made

theorem Agreeing.status (admitted : twin.Admitted (.status now uploadID userID)) :
    SameAnswer setup twin (.status now uploadID userID) ∧
      Agreeing (twin.step setup (.status now uploadID userID)) := by
  obtain ⟨live, listed⟩ := admitted
  have mirrored := agreeing.mirrored
  refine ⟨?_, agreeing⟩
  unfold SameAnswer
  simp only [respond, Upload.status, mirrored.enter_eq live now userID]
  cases entered : enter inMemory now uploadID userID twin.memory.storage with
  | error error => rfl
  | ok session =>
    obtain ⟨uncleaned, written⟩ := listed session entered
    have named := mirrored.named uploadID session (enter_eq_ok_iff.mp entered).1
    have received := receivedChunks_alike mirrored.only mirrored.shaped
      (mirrored.made uploadID written live) (mirrored.chunks live uncleaned)
    simp only [bind, Except.bind, named, received, mirrored.done_eq live]
    rfl

theorem Agreeing.complete
    (admitted : twin.Admitted (.complete now uploadID userID node dispatched)) :
    SameAnswer setup twin (.complete now uploadID userID node dispatched) ∧
      Agreeing (twin.step setup (.complete now uploadID userID node dispatched)) := by
  obtain ⟨live, listed⟩ := admitted
  have matching := agreeing.mirrored.complete live listed setup.sha256 dispatched
  refine ⟨congrArg Answer.ended matching.result, agreeing.issued, ?_, matching.mirrored⟩
  simp only [step, respond, matching.cleanup, agreeing.cleanups]

theorem Agreeing.abort (live : uploadID ∉ twin.past.aborted) (now : Int) (userID : Nat) :
    SameAnswer setup twin (.abort now uploadID userID) ∧
      Agreeing (twin.step setup (.abort now uploadID userID)) := by
  have mirrored := agreeing.mirrored
  unfold SameAnswer step
  simp only [respond, Upload.abort, aborts, enter,
    ← load_congr (mirrored.metadata live)]
  cases load inMemory twin.memory.storage uploadID with
  | error error =>
    cases error <;> exact ⟨rfl, agreeing.issued, agreeing.cleanups, mirrored⟩
  | ok session =>
    simp only [bind, Except.bind]
    cases verifyAccess now userID session with
    | error error => exact ⟨rfl, agreeing.issued, agreeing.cleanups, mirrored⟩
    | ok granted =>
      obtain ⟨left, deleted, after⟩ := mirrored.aborted uploadID
      have onDiskDeleted : onDisk.deleteByPrefix twin.disk.storage
          (dirText (transferRoot uploadID)) = some left := deleted
      simp only [onDiskDeleted]
      exact ⟨rfl, agreeing.issued, agreeing.cleanups, after⟩

theorem Agreeing.cleanup (uploadID : Name) :
    SameAnswer setup twin (.cleanup uploadID) ∧ Agreeing (twin.step setup (.cleanup uploadID)) := by
  unfold SameAnswer step
  simp only [respond, cleans, ← agreeing.cleanups]
  split
  next pending =>
    refine ⟨rfl, agreeing.issued, rfl, ?_⟩
    exact agreeing.mirrored.cleaned pending
  next => exact ⟨rfl, agreeing.issued, agreeing.cleanups, agreeing.mirrored⟩

theorem Agreeing.respond (admitted : twin.Admitted call) :
    SameAnswer setup twin call ∧ Agreeing (twin.step setup call) := by
  cases call with
  | create now params => exact agreeing.create now params
  | writeChunk now uploadID userID index body =>
    exact agreeing.writeChunk admitted now userID index body
  | status now uploadID userID => exact agreeing.status admitted
  | complete now uploadID userID node dispatched => exact agreeing.complete admitted
  | abort now uploadID userID => exact agreeing.abort admitted now userID
  | cleanup uploadID => exact agreeing.cleanup uploadID

end

private theorem fresh_agreeing : Agreeing fresh := ⟨rfl, rfl, .empty⟩

private theorem agreeing_run (admitted : Along (step setup) Admitted fresh calls) :
    Agreeing (run (step setup) fresh calls) :=
  admitted.invariant (fun _ _ admits agreeing => (agreeing.respond admits).2) fresh_agreeing

end Twin

def Setup.afterCallsOnDisk (setup : Setup) (calls : List Call) :
    ServiceState (LocalFileManager Object) :=
  run (fun state call => (setup.respond onDisk state call).1) ⟨.empty, 0, []⟩ calls

private theorem Twin.run_eq (setup : Setup) (calls : List Call) :
    (run (Twin.step setup) .fresh calls).memory = setup.afterCalls calls ∧
      (run (Twin.step setup) .fresh calls).disk = setup.afterCallsOnDisk calls := by
  unfold afterCalls afterCallsOnDisk
  induction calls using List.reverseRecOn with
  | nil => exact ⟨rfl, rfl⟩
  | append_singleton calls call ih =>
    rw [run_append, run_append, run_append, ← ih.1, ← ih.2]
    exact ⟨rfl, rfl⟩

theorem same_answers_of_admitted (setup : Setup) {calls : List Call}
    (admitted : Along (Twin.step setup) Twin.Admitted .fresh calls) :
    ∀ first call rest, calls = first ++ call :: rest →
      (setup.respond inMemory (setup.afterCalls first) call).2 =
        (setup.respond onDisk (setup.afterCallsOnDisk first) call).2 := by
  intro first call rest split
  subst split
  obtain ⟨before, admits, -⟩ := along_append.mp admitted
  obtain ⟨memory, disk⟩ := Twin.run_eq setup first
  rw [← memory, ← disk]
  exact ((Twin.agreeing_run before).respond admits).1

def writtenAndAborted : List Call :=
  threeBytes ++ [.status 1 (chunkName 0) 1, .abort 1 (chunkName 0) 1]

theorem same_answers_of_admitted_writtenAndAborted :
    (byteChunks.respond inMemory (byteChunks.afterCalls threeBytes) (.status 1 (chunkName 0) 1)).2 =
      (byteChunks.respond onDisk (byteChunks.afterCallsOnDisk threeBytes)
        (.status 1 (chunkName 0) 1)).2 := by
  have admitted : Along (Twin.step byteChunks) Twin.Admitted .fresh writtenAndAborted := by
    refine ⟨trivial, ?_, ⟨by decide, fun _ _ => ⟨by decide, by decide⟩⟩, ?_, trivial⟩ <;>
      unfold Twin.Admitted <;> decide
  exact same_answers_of_admitted byteChunks admitted threeBytes (.status 1 (chunkName 0) 1)
    [.abort 1 (chunkName 0) 1] rfl

theorem created_session_differs :
    (∃ report, (byteChunks.respond inMemory (byteChunks.afterCalls [.create 1 (byteParams 3)])
        (.status 1 (chunkName 0) 1)).2 = .reported (.ok report) ∧
      report.receivedChunks = [] ∧ report.missingChunks = [0, 1, 2]) ∧
    (byteChunks.respond onDisk (byteChunks.afterCallsOnDisk [.create 1 (byteParams 3)])
      (.status 1 (chunkName 0) 1)).2 = .reported (.error .listUploadedChunks) :=
  ⟨⟨_, rfl, rfl, rfl⟩, rfl⟩

end ShadowPanel.Upload
