import ShadowPanel.Upload.WriteChunks

namespace ShadowPanel.Upload

open Data Files

/-! `Complete`, `WriteChunk` and `Abort` calls on one session side by side, one
operation of the storage in each step. -/

/-- The moment of a step, and what the daemon answers if the step is the return of
a dispatch. -/
structure UploadMoment where
  now : Int
  dispatched : Bool

/-- Where a `Complete` is: each constructor but the last names the next operation. -/
inductive CompleteStage where
  | readMetadata
  | existsDone (session : Session)
  | listChunks (session : Session)
  /-- `WriteStream` of the data, which opens the chunks one after the other before
  it stores what it has read. -/
  | assemble (session : Session) (read : Bytes) (left : List Nat)
  | deleteData (error : UploadError)
  | dispatch (session : Session) (checksum : List Char)
  | dispatching (session : Session) (checksum : List Char)
  | writeDone (checksum : List Char)
  /-- `cleanupAfterComplete`, after the call has returned. -/
  | cleanChunks
  | cleanData
  | returned (result : Except UploadError Unit)

inductive AbortStage where
  | readMetadata
  | deleteRoot
  | returned (result : Except UploadError Unit)

inductive SessionCall where
  | chunk (call : ChunkCall)
  | complete (userID : Nat) (node : Option Nat) (stage : CompleteStage)
  | abort (userID : Nat) (stage : AbortStage)

namespace CompleteStage

variable (sha256 : Bytes → List Char) (uploadID : Name) (moment : UploadMoment) (userID : Nat)
  (node : Option Nat) (memory : InMemoryFileManager Object)

def act : CompleteStage → InMemoryFileManager Object × CompleteStage
  | .readMetadata =>
    match enter inMemory moment.now uploadID userID memory with
    | .error error => (memory, .returned (.error error))
    | .ok session =>
      if node ≠ some session.nodeID then (memory, .returned (.error .nodeMismatch))
      else (memory, .existsDone session)
  | .existsDone session =>
    if inMemory.existsAt memory (donePath uploadID) then (memory, .returned (.ok ()))
    else (memory, .listChunks session)
  | .listChunks session =>
    match receivedChunks inMemory memory uploadID with
    | .error error => (memory, .returned (.error error))
    | .ok received =>
      if AllReceived session received then
        (memory, .assemble session [] (List.range session.totalChunks.toNat))
      else (memory, .returned (.error .incompleteUpload))
  | .assemble session read (index :: left) =>
    match (inMemory.readStream memory (chunkPath uploadID index)).bind Object.raw with
    | none => (memory, .deleteData .assembleUploadData)
    | some chunk => (memory, .assemble session (read ++ chunk) left)
  | .assemble session read [] =>
    (memory.write (pathText (dataPath uploadID)) (.bytes read),
      if sha256 read ≠ session.expectedChecksum then .deleteData .checksumMismatch
      else .dispatch session (sha256 read))
  | .deleteData error =>
    (deleteQuietly inMemory memory (dataPath uploadID), .returned (.error error))
  | .dispatch session checksum => (memory, .dispatching session checksum)
  | .dispatching _ checksum =>
    (memory, if moment.dispatched then .writeDone checksum else .deleteData .dispatchUploadToDaemon)
  | .writeDone checksum =>
    (memory.write (pathText (donePath uploadID)) (.done ⟨true, checksum⟩), .cleanChunks)
  | .cleanChunks => (memory.deleteByPrefix (dirText (chunksDir uploadID)), .cleanData)
  | .cleanData => (deleteQuietly inMemory memory (dataPath uploadID), .returned (.ok ()))
  | .returned result => (memory, .returned result)

end CompleteStage

namespace AbortStage

def act (uploadID : Name) (moment : UploadMoment) (userID : Nat)
    (memory : InMemoryFileManager Object) : AbortStage → InMemoryFileManager Object × AbortStage
  | .readMetadata =>
    match load inMemory memory uploadID with
    | .error .sessionNotFound => (memory, .returned (.ok ()))
    | .error error => (memory, .returned (.error error))
    | .ok session =>
      match verifyAccess moment.now userID session with
      | .error error => (memory, .returned (.error error))
      | .ok () => (memory, .deleteRoot)
  | .deleteRoot =>
    (memory.deleteByPrefix (dirText (transferRoot uploadID)), .returned (.ok ()))
  | .returned result => (memory, .returned result)

end AbortStage

namespace SessionCall

def act (sha256 : Bytes → List Char) (uploadID : Name) (moment : UploadMoment)
    (memory : InMemoryFileManager Object) : SessionCall → InMemoryFileManager Object × SessionCall
  | .chunk call =>
    let (after, next) := call.act uploadID moment.now memory
    (after, .chunk next)
  | .complete userID node stage =>
    let (after, next) := stage.act sha256 uploadID moment userID node memory
    (after, .complete userID node next)
  | .abort userID stage =>
    let (after, next) := stage.act uploadID moment userID memory
    (after, .abort userID next)

def isDispatching : SessionCall → Bool
  | .complete _ _ (.dispatching _ _) => true
  | _ => false

end SessionCall

section

variable (sha256 : Bytes → List Char) (session : Session)

def Prepared (object : Option Object) : Prop :=
  ∃ bytes, object = some (.bytes bytes) ∧ bytes.length = session.totalSize.toNat ∧
    sha256 bytes = session.expectedChecksum

def Served (object : Option Object) (calls : List SessionCall) : Prop :=
  ∀ call ∈ calls, call.isDispatching = true → Prepared sha256 session object

end

namespace CompleteStage

variable {sha256 : Bytes → List Char} {stage : CompleteStage}

/-- What the call has read is the session, and the chunks that it has opened had
their sizes. -/
def Holds (session : Session) : CompleteStage → Prop
  | .existsDone read | .listChunks read => read = session
  | .assemble read bytes left => read = session ∧
    ∃ opened, List.range session.totalChunks.toNat = opened ++ left ∧
      bytes.length = (opened.map fun index => (session.chunkSizeFor index).toNat).sum
  | _ => True

def opens : CompleteStage → Option Nat
  | .assemble _ _ (index :: _) => some index
  | _ => none

theorem act_holds (live : Live session uploadID memory) (holds : stage.Holds session)
    (sized : ∀ index ∈ stage.opens, ∀ object ∈
      stored memory uploadID (.chunk index), Sized session index (some object)) :
    (stage.act sha256 uploadID moment userID node memory).2.Holds session := by
  cases stage with
  | readMetadata =>
    simp only [act]
    cases entered : enter inMemory moment.now uploadID userID memory with
    | error error => trivial
    | ok read =>
      simp only
      split
      · trivial
      · exact live.enter entered
  | existsDone read =>
    simp only [act]
    split
    · trivial
    · exact holds
  | listChunks read =>
    simp only [act]
    obtain rfl : read = session := holds
    cases receivedChunks inMemory memory uploadID with
    | error error => trivial
    | ok received =>
      simp only
      split
      · exact ⟨rfl, [], rfl, rfl⟩
      · trivial
  | assemble read bytes left =>
    cases left with
    | nil =>
      simp only [act]
      split <;> trivial
    | cons index left =>
      obtain ⟨same, opened, whole, length⟩ := holds
      simp only [act]
      split
      · trivial
      next chunk found =>
        obtain ⟨object, there, raw⟩ := Option.bind_eq_some_iff.mp found
        obtain ⟨content, isContent, size⟩ := sized index rfl object there
        cases isContent
        cases raw
        refine ⟨same, opened ++ [index], by simp [whole], ?_⟩
        simp [length, size]
  | dispatching read checksum =>
    simp only [act]
    split <;> trivial
  | _ => trivial

def after (uploadID : Name) (memory : InMemoryFileManager Object) :
    CompleteStage → SessionFile → Option Object
  | .assemble _ read [], .data => some (.bytes read)
  | .deleteData _, .data | .cleanData, .data => none
  | .writeDone checksum, .done => some (.done ⟨true, checksum⟩)
  | .cleanChunks, .chunk _ => none
  | _, file => stored memory uploadID file

theorem stored_act (file : SessionFile) :
    stored (stage.act sha256 uploadID moment userID node memory).1 uploadID file =
      stage.after uploadID memory file := by
  have deleted : stored (deleteQuietly inMemory memory (dataPath uploadID)) uploadID file =
      after uploadID memory .cleanData file := by
    cases file with
    | data => exact (updated_delete .data).stored_self
    | _ => exact (updated_delete .data).stored_of_ne nofun
  cases stage with
  | readMetadata | listChunks read =>
    simp only [act]
    split
    · rfl
    · split <;> rfl
  | existsDone read =>
    simp only [act]
    split <;> rfl
  | assemble read bytes left =>
    cases left with
    | nil =>
      cases file with
      | data => exact (updated_write .data _).stored_self
      | _ => exact (updated_write .data _).stored_of_ne nofun
    | cons index left =>
      simp only [act]
      split <;> rfl
  | deleteData error => cases file <;> exact deleted
  | writeDone checksum =>
    cases file with
    | done => exact (updated_write .done _).stored_self
    | _ => exact (updated_write .done _).stored_of_ne nofun
  | cleanChunks =>
    cases file with
    | chunk index =>
      exact (stored_deleteChunks_chunk memory uploadID uploadID index).trans (if_pos rfl)
    | _ => exact stored_deleteChunks_of_ne memory uploadID uploadID _ nofun
  | cleanData => exact deleted
  | _ => rfl

private theorem after_metadata :
    stage.after uploadID memory .metadata = stored memory uploadID .metadata := by
  cases stage with
  | assemble read bytes left => cases left <;> rfl
  | _ => rfl

end CompleteStage

namespace AbortStage

variable {stage : AbortStage}

def after (uploadID : Name) (memory : InMemoryFileManager Object) :
    AbortStage → SessionFile → Option Object
  | .deleteRoot, _ => none
  | _, file => stored memory uploadID file

theorem stored_act (file : SessionFile) :
    stored (stage.act uploadID moment userID memory).1 uploadID file =
      stage.after uploadID memory file := by
  cases stage with
  | readMetadata =>
    simp only [act]
    split
    · rfl
    · rfl
    · split <;> rfl
  | deleteRoot => exact (stored_deleteRoot memory uploadID uploadID file).trans (if_pos rfl)
  | returned result => rfl

end AbortStage

namespace SessionCall

def Holds (session : Session) : SessionCall → Prop
  | .chunk call => call.Holds session
  | .complete _ _ stage => stage.Holds session
  | .abort _ _ => True

def needsData : SessionCall → Bool
  | .complete _ _ (.dispatch _ _) | .complete _ _ (.dispatching _ _) => true
  | _ => false

/-- A `WriteChunk` that has stored a body of the wrong size and deletes it next. -/
def rejects (index : Nat) : SessionCall → Bool
  | .chunk ⟨request, .delete .chunkSizeMismatch⟩ => request.index == index
  | _ => false

/-- A call stores or deletes the data only while no other call needs them, and opens a
chunk only while no other call is about to reject it. -/
def Exclusive (_ : UploadMoment) (_ : InMemoryFileManager Object) (others : List SessionCall) :
    SessionCall → Prop
  | .complete _ _ (.assemble _ _ (index :: _)) => ∀ other ∈ others, other.rejects index = false
  | .complete _ _ (.assemble _ _ []) | .complete _ _ (.deleteData _) | .complete _ _ .cleanData
  | .abort _ .deleteRoot => ∀ other ∈ others, other.needsData = false
  | _ => True

instance (moment : UploadMoment) (memory : InMemoryFileManager Object) (others : List SessionCall)
    (call : SessionCall) : Decidable (Exclusive moment memory others call) := by
  unfold Exclusive
  split <;> infer_instance

def willNeedData (sha256 : Bytes → List Char) : SessionCall → Bool
  | .complete _ _ (.assemble session read []) => sha256 read = session.expectedChecksum
  | .complete _ _ (.dispatch _ _) => true
  | _ => false

def dataAfter (uploadID : Name) (memory : InMemoryFileManager Object) : SessionCall → Option Object
  | .complete _ _ stage => stage.after uploadID memory .data
  | .abort _ stage => stage.after uploadID memory .data
  | .chunk _ => stored memory uploadID .data

variable {sha256 : Bytes → List Char}
  {call : SessionCall}

private theorem stored_data_act : stored (act sha256 uploadID moment memory call).1 uploadID .data =
    call.dataAfter uploadID memory := by
  cases call with
  | chunk call => exact ChunkCall.stored_act nofun
  | complete userID node stage => exact CompleteStage.stored_act .data
  | abort userID stage => exact AbortStage.stored_act .data

private theorem act_live (live : Live session uploadID memory) :
    Live session uploadID (act sha256 uploadID moment memory call).1 := by
  intro object found
  cases call with
  | chunk call =>
    have same : stored (call.act uploadID moment.now memory).1 uploadID .metadata = _ :=
      ChunkCall.stored_act nofun
    exact live object (same.symm.trans found)
  | complete userID node stage =>
    have left := (CompleteStage.stored_act .metadata).symm.trans found
    rw [CompleteStage.after_metadata] at left
    exact live object left
  | abort userID stage =>
    have left := (AbortStage.stored_act .metadata).symm.trans found
    cases stage with
    | deleteRoot => cases left
    | _ => exact live object left

theorem act_holds (live : Live session uploadID memory) (holds : call.Holds session)
    (exclusive : Exclusive moment memory others call)
    (chunks : ∀ index object, stored memory uploadID (.chunk index) = some object →
      Sized session index (some object) ∨ (∃ other ∈ others, other.rejects index = true) ∨
      call.rejects index = true) :
    (act sha256 uploadID moment memory call).2.Holds session := by
  cases call with
  | chunk call => exact ChunkCall.act_holds live holds
  | abort userID stage => trivial
  | complete userID node stage =>
    refine CompleteStage.act_holds live holds fun index opens object there => ?_
    refine (chunks index object there).resolve_right ?_
    rintro (⟨other, member, rejects⟩ | own)
    case inr => cases own
    cases stage with
    | assemble read bytes left =>
      cases left with
      | nil => cases opens
      | cons first rest =>
        cases opens
        cases (exclusive other member).symm.trans rejects
    | _ => cases opens

private theorem stored_writeStream
    (there : stored (act sha256 uploadID moment memory (.chunk ⟨request, .writeStream session⟩)).1
      uploadID (.chunk request.index) = some object) :
    Sized session request.index (some object) ∨
      (act sha256 uploadID moment memory (.chunk ⟨request, .writeStream session⟩)).2.rejects
        request.index = true ∨
      stored memory uploadID (.chunk request.index) = some object := by
  simp only [act, ChunkCall.act, writeStream_inMemory] at there ⊢
  cases fails : (ChunkCall.limited ⟨request, .writeStream session⟩ session).fails with
  | true =>
    rw [fails] at there
    exact .inr (.inr there)
  | false =>
    simp only [fails, Bool.false_eq_true, if_false] at there ⊢
    split at there
    next right =>
      cases (updated_write _ _).stored_self.symm.trans there
      exact .inl ⟨_, rfl, right⟩
    next wrong =>
      rw [if_neg wrong]
      exact .inr (.inl (beq_self_eq_true _))

/-- A chunk that is there after the step has its size, or is about to be rejected, or
was there before and this call did not mean to reject it. -/
private theorem stored_chunk_act (holds : call.Holds session) {index : Nat}
    (there : stored (act sha256 uploadID moment memory call).1 uploadID (.chunk index) =
      some object) :
    Sized session index (some object) ∨
      (act sha256 uploadID moment memory call).2.rejects index = true ∨
      stored memory uploadID (.chunk index) = some object ∧ call.rejects index = false := by
  cases call with
  | abort userID stage =>
    have before := (AbortStage.stored_act (.chunk index)).symm.trans there
    cases stage with
    | deleteRoot => cases before
    | _ => exact .inr (.inr ⟨before, rfl⟩)
  | complete userID node stage =>
    have before := (CompleteStage.stored_act (.chunk index)).symm.trans there
    cases stage with
    | assemble read bytes left => cases left <;> exact .inr (.inr ⟨before, rfl⟩)
    | cleanChunks => cases before
    | _ => exact .inr (.inr ⟨before, rfl⟩)
  | chunk call =>
    obtain ⟨request, stage⟩ := call
    by_cases own : index = request.index
    · subst own
      cases stage with
      | readMetadata =>
        simp only [act, ChunkCall.act] at there
        split at there <;> exact .inr (.inr ⟨there, rfl⟩)
      | existsDone read =>
        simp only [act, ChunkCall.act] at there
        split at there
        · exact .inr (.inr ⟨there, rfl⟩)
        · split at there <;> exact .inr (.inr ⟨there, rfl⟩)
      | writeStream read =>
        obtain rfl : read = session := holds
        exact (stored_writeStream there).imp_right fun rest => rest.imp_right (⟨·, rfl⟩)
      | delete error => cases (updated_delete _).stored_self.symm.trans there
      | returned result => exact .inr (.inr ⟨there, rfl⟩)
    · refine .inr (.inr ⟨(ChunkCall.stored_act (by simpa using own)).symm.trans there, ?_⟩)
      unfold rejects
      split
      · next same =>
        cases same
        simpa using Ne.symm own
      · rfl

private theorem needsData_act :
    (act sha256 uploadID moment memory call).2.needsData = call.willNeedData sha256 := by
  cases call with
  | chunk call | abort userID stage => exact rfl
  | complete userID node stage =>
    cases stage with
    | readMetadata | listChunks read =>
      simp only [act, CompleteStage.act]
      split
      · exact rfl
      · split <;> exact rfl
    | existsDone read =>
      simp only [act, CompleteStage.act]
      split <;> exact rfl
    | assemble read bytes left =>
      cases left with
      | nil =>
        simp only [act, CompleteStage.act]
        split
        next other => exact (decide_eq_false other).symm
        next same => exact (decide_eq_true (not_not.mp same)).symm
      | cons index left =>
        simp only [act, CompleteStage.act]
        split <;> exact rfl
    | dispatching read checksum =>
      simp only [act, CompleteStage.act]
      split <;> exact rfl
    | _ => exact rfl

private theorem Exclusive.dataAfter_eq (exclusive : Exclusive moment memory others call) :
    call.dataAfter uploadID memory = stored memory uploadID .data ∨
      ∀ other ∈ others, other.needsData = false := by
  cases call with
  | chunk call => exact .inl rfl
  | abort userID stage =>
    cases stage with
    | deleteRoot => exact .inr exclusive
    | _ => exact .inl rfl
  | complete userID node stage =>
    cases stage with
    | assemble read bytes left =>
      cases left with
      | nil => exact .inr exclusive
      | cons index left => exact .inl rfl
    | deleteData error | cleanData => exact .inr exclusive
    | _ => exact .inl rfl

private theorem prepared_act (divided : session.Divided) (holds : call.Holds session)
    (own : call.needsData = true → Prepared sha256 session (stored memory uploadID .data))
    (needs : call.willNeedData sha256 = true) :
    Prepared sha256 session (call.dataAfter uploadID memory) := by
  cases call with
  | chunk call | abort userID stage => cases needs
  | complete userID node stage =>
    cases stage with
    | assemble read bytes left =>
      cases left with
      | nil =>
        obtain ⟨rfl, opened, whole, length⟩ := holds
        rw [List.append_nil] at whole
        rw [← whole, divided.sum_chunkSizeFor] at length
        exact ⟨bytes, rfl, length, of_decide_eq_true needs⟩
      | cons index left => cases needs
    | dispatch read checksum => exact own rfl
    | _ => cases needs

private theorem needsData_of_isDispatching (dispatching : call.isDispatching = true) :
    call.needsData = true := by
  cases call with
  | complete userID node stage =>
    cases stage with
    | dispatching read checksum => rfl
    | _ => cases dispatching
  | _ => cases dispatching

end SessionCall

inductive SessionRequest where
  | writeChunk (request : ChunkRequest)
  | complete (userID : Nat) (node : Option Nat)
  | abort (userID : Nat)

def SessionRequest.start : SessionRequest → SessionCall
  | .writeChunk request => .chunk (.start request)
  | .complete userID node => .complete userID node .readMetadata
  | .abort userID => .abort userID .readMetadata

section

variable (sha256 : Bytes → List Char) (uploadID : Name) (session : Session)
  (memory : InMemoryFileManager Object) (requests : List SessionRequest)

def sessionPool : Pool (InMemoryFileManager Object) SessionCall where
  shared := memory.write (pathText (metadataPath uploadID)) (.session session)
  calls := requests.map SessionRequest.start

def sessionRun (events : List (Nat × UploadMoment)) :
    Pool (InMemoryFileManager Object) SessionCall :=
  run (Pool.step (SessionCall.act sha256 uploadID)) (sessionPool uploadID session memory requests)
    events

def DispatchServed (pool : Pool (InMemoryFileManager Object) SessionCall) : Prop :=
  Served sha256 session (stored pool.shared uploadID .data) pool.calls

/-- What holds along a run: each stored chunk has its size or is about to be rejected,
and each call that needs the data has them. -/
structure Serving (pool : Pool (InMemoryFileManager Object) SessionCall) : Prop where
  live : Live session uploadID pool.shared
  holds : ∀ call ∈ pool.calls, call.Holds session
  chunks : ∀ index object, stored pool.shared uploadID (.chunk index) = some object →
    Sized session index (some object) ∨ ∃ call ∈ pool.calls, call.rejects index = true
  data : ∀ call ∈ pool.calls, call.needsData = true →
    Prepared sha256 session (stored pool.shared uploadID .data)

variable {sha256 uploadID session memory}

theorem Serving.act (divided : session.Divided)
    (serving : Serving sha256 uploadID session ⟨memory, before ++ call :: after⟩)
    (exclusive : call.Exclusive moment memory (before ++ after)) :
    Serving sha256 uploadID session ⟨(call.act sha256 uploadID moment memory).1,
      before ++ (call.act sha256 uploadID moment memory).2 :: after⟩ := by
  obtain ⟨othersHold, holds⟩ := Pool.forall_calls.mp serving.holds
  obtain ⟨others, own⟩ := Pool.forall_calls.mp serving.data
  refine ⟨SessionCall.act_live serving.live, Pool.forall_calls.mpr ⟨othersHold, ?_⟩, ?_, ?_⟩
  · exact SessionCall.act_holds serving.live holds exclusive fun index object there =>
      (serving.chunks index object there).imp_right Pool.exists_calls.mp
  · intro index object there
    rcases SessionCall.stored_chunk_act holds there with sized | rejects | ⟨kept, idle⟩
    · exact .inl sized
    · exact .inr (Pool.exists_calls.mpr (.inr rejects))
    · refine (serving.chunks index object kept).imp_right fun rejected => ?_
      refine Pool.exists_calls.mpr (.inl ((Pool.exists_calls.mp rejected).resolve_right ?_))
      simp [idle]
  · rw [Pool.forall_calls, SessionCall.stored_data_act, SessionCall.needsData_act]
    refine ⟨fun other member needs => ?_, SessionCall.prepared_act divided holds own⟩
    rcases exclusive.dataAfter_eq with same | free
    · exact same ▸ others other member needs
    · cases (free other member).symm.trans needs

theorem Serving.served (serving : Serving sha256 uploadID session pool) :
    DispatchServed sha256 uploadID session pool := by
  intro call member dispatching
  exact serving.data call member (SessionCall.needsData_of_isDispatching dispatching)

private theorem serving_sessionPool
    (chunks : ∀ index object, stored memory uploadID (.chunk index) = some object →
      Sized session index (some object)) :
    Serving sha256 uploadID session (sessionPool uploadID session memory requests) := by
  refine ⟨live_write memory, ?_, fun index object there => .inl (chunks index object ?_), ?_⟩
  · intro call member
    obtain ⟨request, -, rfl⟩ := List.mem_map.mp member
    cases request <;> trivial
  · have kept : stored (sessionPool uploadID session memory requests).shared uploadID
        (.chunk index) = stored memory uploadID (.chunk index) :=
      (updated_write .metadata _).stored_of_ne nofun
    exact kept.symm.trans there
  · intro call member needs
    obtain ⟨request, -, rfl⟩ := List.mem_map.mp member
    cases request <;> cases needs

variable (sha256)

/-- A dispatch has its data in every state of a run whose steps are exclusive. -/
theorem dispatch_served (divided : session.Divided)
    (chunks : ∀ index object, stored memory uploadID (.chunk index) = some object →
      Sized session index (some object))
    (exclusive : Along (Pool.step (SessionCall.act sha256 uploadID))
      (Pool.Admits SessionCall.Exclusive) (sessionPool uploadID session memory requests)
      (first ++ rest)) :
    DispatchServed sha256 uploadID session
      (sessionRun sha256 uploadID session memory requests first) := by
  have serving := Pool.invariant (Serving sha256 uploadID session) (along_append.mp exclusive).1
    (fun _ _ _ _ _ admitted serving => serving.act divided admitted)
    (serving_sessionPool requests chunks)
  exact serving.served

end

def receivedTwoBytes : InMemoryFileManager Object :=
  InMemoryFileManager.empty.write (pathText (chunkPath (chunkName 0) 0)) (.bytes [7, 8])

private theorem sized_receivedTwoBytes (index : Nat) (object : Object)
    (there : stored receivedTwoBytes (chunkName 0) (.chunk index) = some object) :
    Sized twoByteSession index (some object) := by
  have written : stored receivedTwoBytes (chunkName 0) (.chunk index) = _ :=
    (updated_write (.chunk 0) _).stored_eq _ _
  rw [written] at there
  split at there
  next same =>
    cases SessionFile.chunk.inj same.2
    cases there
    exact ⟨_, rfl, rfl⟩
  next => cases there

theorem dispatch_served_oneCall :
    (sessionRun (fun _ => List.replicate 64 '0') (chunkName 0) twoByteSession receivedTwoBytes
        [.complete 1 (some 1)] (List.replicate 6 (0, ⟨1, true⟩))).calls.map
      SessionCall.isDispatching = [true] ∧
    DispatchServed (fun _ => List.replicate 64 '0') (chunkName 0) twoByteSession
      (sessionRun (fun _ => List.replicate 64 '0') (chunkName 0) twoByteSession receivedTwoBytes
        [.complete 1 (some 1)] (List.replicate 6 (0, ⟨1, true⟩))) := by
  refine ⟨by decide, ?_⟩
  have exclusive :
      Along (Pool.step (SessionCall.act (fun _ => List.replicate 64 '0') (chunkName 0)))
      (Pool.Admits SessionCall.Exclusive) (sessionPool (chunkName 0) twoByteSession
        receivedTwoBytes [.complete 1 (some 1)]) (List.replicate 6 (0, ⟨1, true⟩) ++ []) := by
    decide
  exact dispatch_served _ _ ⟨by decide, by decide⟩ sized_receivedTwoBytes exclusive

def secondOvertakes : List (Nat × UploadMoment) :=
  List.replicate 6 (0, ⟨1, true⟩) ++ List.replicate 10 (1, ⟨1, true⟩)

theorem data_removed_under_dispatch :
    (sessionRun (fun _ => List.replicate 64 '0') (chunkName 0) twoByteSession receivedTwoBytes
        [.complete 1 (some 1), .complete 1 (some 1)] secondOvertakes).calls.map
      SessionCall.isDispatching = [true, false] ∧
    ¬DispatchServed (fun _ => List.replicate 64 '0') (chunkName 0) twoByteSession
      (sessionRun (fun _ => List.replicate 64 '0') (chunkName 0) twoByteSession receivedTwoBytes
        [.complete 1 (some 1), .complete 1 (some 1)] secondOvertakes) := by
  refine ⟨by decide, ?_⟩
  intro served
  obtain ⟨bytes, found, -⟩ := served
    (.complete 1 (some 1) (.dispatching twoByteSession (List.replicate 64 '0')))
    (by exact .head _) rfl
  cases found

end ShadowPanel.Upload
