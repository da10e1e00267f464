import ShadowPanel.Data.Interleaving
import ShadowPanel.Upload.Storage

namespace ShadowPanel.Upload

open Data Files

/-! `WriteChunk` calls on one session side by side, one operation of the storage in
each step. -/

structure ChunkRequest where
  userID : Nat
  index : Nat
  body : Reader Bytes

/-- Where a call is: each constructor but the last names the next operation. -/
inductive ChunkStage where
  | readMetadata
  | existsDone (session : Session)
  | writeStream (session : Session)
  | delete (error : UploadError)
  | returned (result : Except UploadError Unit)

structure ChunkCall where
  request : ChunkRequest
  stage : ChunkStage

namespace ChunkCall

def start (request : ChunkRequest) : ChunkCall := ⟨request, .readMetadata⟩

def limited (call : ChunkCall) (session : Session) : Reader Bytes :=
  limitReader (safeChunkLimit (session.chunkSizeFor call.request.index)) call.request.body

def RightSize (call : ChunkCall) (session : Session) : Prop :=
  (call.limited session).content.length = (session.chunkSizeFor call.request.index).toNat

instance (call : ChunkCall) (session : Session) : Decidable (call.RightSize session) :=
  inferInstanceAs (Decidable (_ = _))

def act (uploadID : Name) (now : Int) (memory : InMemoryFileManager Object) (call : ChunkCall) :
    InMemoryFileManager Object × ChunkCall :=
  match call.stage with
  | .readMetadata =>
    match enter inMemory now uploadID call.request.userID memory with
    | .error error => (memory, { call with stage := .returned (.error error) })
    | .ok session => (memory, { call with stage := .existsDone session })
  | .existsDone session =>
    if inMemory.existsAt memory (donePath uploadID) then
      (memory, { call with stage := .returned (.error .sessionAlreadyDone) })
    else if session.totalChunks.toNat ≤ call.request.index then
      (memory, { call with stage := .returned (.error .invalidIndex) })
    else (memory, { call with stage := .writeStream session })
  | .writeStream session =>
    match inMemory.writeStream memory (chunkPath uploadID call.request.index)
        ⟨.bytes (call.limited session).content, (call.limited session).fails⟩ with
    | (written, false) => (written, { call with stage := .delete .writeChunk })
    | (written, true) =>
      if call.RightSize session then (written, { call with stage := .returned (.ok ()) })
      else (written, { call with stage := .delete .chunkSizeMismatch })
  | .delete error =>
    (deleteQuietly inMemory memory (chunkPath uploadID call.request.index),
      { call with stage := .returned (.error error) })
  | .returned _ => (memory, call)

def succeeded (call : ChunkCall) : Bool :=
  match call.stage with
  | .returned (.ok _) => true
  | _ => false

def Holds (session : Session) (call : ChunkCall) : Prop :=
  match call.stage with
  | .existsDone read | .writeStream read => read = session
  | _ => True

/-- A call that stores a body of the wrong size, or removes the chunk, does so
before any other call for the same chunk has succeeded. -/
def Spares (_ : Int) (_ : InMemoryFileManager Object) (others : List ChunkCall) (call : ChunkCall) :
    Prop :=
  match call.stage with
  | .writeStream session =>
    (call.limited session).fails = false → ¬call.RightSize session →
      ∀ other ∈ others, other.succeeded = true → other.request.index ≠ call.request.index
  | .delete _ =>
    ∀ other ∈ others, other.succeeded = true → other.request.index ≠ call.request.index
  | _ => True

instance (now : Int) (memory : InMemoryFileManager Object) (others : List ChunkCall)
    (call : ChunkCall) : Decidable (Spares now memory others call) := by
  unfold Spares
  split <;> infer_instance

end ChunkCall

section

variable (session : Session) (uploadID : Name)

def Sized (index : Nat) (object : Option Object) : Prop :=
  ∃ bytes, object = some (.bytes bytes) ∧ bytes.length = (session.chunkSizeFor index).toNat

section

variable (memory : InMemoryFileManager Object)

def Acknowledged (calls : List ChunkCall) : Prop :=
  ∀ call ∈ calls, call.succeeded = true →
    Sized session call.request.index (stored memory uploadID (.chunk call.request.index))

def Live : Prop :=
  ∀ object, stored memory uploadID .metadata = some object → object = .session session

def Entered (calls : List ChunkCall) : Prop :=
  Live session uploadID memory ∧ ∀ call ∈ calls, call.Holds session

end

variable {session uploadID}

theorem live_write (memory : InMemoryFileManager Object) :
    Live session uploadID (memory.write (pathText (metadataPath uploadID)) (.session session)) := by
  intro object found
  exact (Option.some.inj ((updated_write .metadata _).stored_self.symm.trans found)).symm

theorem Live.enter {now : Int} {userID : Nat} {read : Session} (live : Live session uploadID memory)
    (entered : enter inMemory now uploadID userID memory = .ok read) : read = session :=
  Object.session.inj (live _ (enter_eq_ok_iff.mp entered).1)

theorem acknowledged_updated_iff (updated : Updated uploadID (.chunk index) value memory after)
    (acknowledged : Acknowledged session uploadID memory calls) :
    Acknowledged session uploadID after calls ↔
      (Sized session index value ∨
        ∀ call ∈ calls, call.succeeded = true → call.request.index ≠ index) := by
  constructor
  · intro still
    by_cases sized : Sized session index value
    · exact .inl sized
    · right
      rintro call member success rfl
      have kept := still call member success
      rw [updated.stored_self] at kept
      exact sized kept
  · intro either call member success
    rw [updated.stored_eq]
    split
    next same =>
      have isIndex : call.request.index = index := SessionFile.chunk.inj same.2
      cases either with
      | inl sized => exact isIndex ▸ sized
      | inr none => exact absurd isIndex (none call member success)
    next => exact acknowledged call member success

end

namespace ChunkCall

theorem stored_act (other : file ≠ .chunk call.request.index) :
    stored (act uploadID now memory call).1 uploadID file = stored memory uploadID file := by
  obtain ⟨request, stage⟩ := call
  cases stage with
  | readMetadata =>
    simp only [act]
    cases enter inMemory now uploadID request.userID memory <;> rfl
  | existsDone read =>
    simp only [act]
    split
    · rfl
    · split <;> rfl
  | writeStream read =>
    have written (bytes : Bytes) :
        stored (memory.write (pathText (chunkPath uploadID request.index)) (.bytes bytes))
          uploadID file = stored memory uploadID file :=
      (updated_write (.chunk request.index) _).stored_of_ne other
    simp only [act, writeStream_inMemory]
    cases (limited ⟨request, .writeStream read⟩ read).fails with
    | true => rfl
    | false =>
      simp only [Bool.false_eq_true, if_false]
      split <;> exact written _
  | delete error =>
    exact (updated_delete (.chunk request.index)).stored_of_ne other
  | returned result => rfl

theorem act_holds (live : Live session uploadID memory) (holds : call.Holds session) :
    (act uploadID now memory call).2.Holds session := by
  obtain ⟨request, stage⟩ := call
  cases stage with
  | readMetadata =>
    simp only [act]
    cases entered : enter inMemory now uploadID request.userID memory with
    | error error => trivial
    | ok read => exact live.enter entered
  | existsDone read =>
    simp only [act]
    split
    · trivial
    · split
      · trivial
      · exact holds
  | writeStream read =>
    simp only [act, writeStream_inMemory]
    cases (limited ⟨request, .writeStream read⟩ read).fails with
    | true => trivial
    | false =>
      simp only [Bool.false_eq_true, if_false]
      split <;> trivial
  | delete error | returned result => trivial

theorem spares_iff (holds : call.Holds session)
    (acknowledged : Acknowledged session uploadID memory others)
    (own : call.succeeded = true →
      Sized session call.request.index (stored memory uploadID (.chunk call.request.index))) :
    Spares now memory others call ↔
      Acknowledged session uploadID (act uploadID now memory call).1 others ∧
        ((act uploadID now memory call).2.succeeded = true →
          Sized session (act uploadID now memory call).2.request.index
            (stored (act uploadID now memory call).1 uploadID
              (.chunk (act uploadID now memory call).2.request.index))) := by
  obtain ⟨request, stage⟩ := call
  cases stage with
  | readMetadata =>
    simp only [act]
    cases enter inMemory now uploadID request.userID memory with
    | error error | ok read => exact iff_of_true trivial ⟨acknowledged, nofun⟩
  | existsDone read =>
    refine iff_of_true trivial ?_
    simp only [act]
    split
    · exact ⟨acknowledged, nofun⟩
    · split
      · exact ⟨acknowledged, nofun⟩
      · exact ⟨acknowledged, nofun⟩
  | writeStream read =>
    have same : read = session := holds
    subst same
    simp only [act, Spares, writeStream_inMemory]
    cases (limited ⟨request, .writeStream read⟩ read).fails with
    | true => exact iff_of_true nofun ⟨acknowledged, nofun⟩
    | false =>
      have updated : Updated uploadID (.chunk request.index) _ memory
        (memory.write (pathText (chunkPath uploadID request.index))
          (.bytes (limited ⟨request, .writeStream read⟩ read).content)) := updated_write _ _
      have others := acknowledged_updated_iff updated acknowledged
      simp only [Bool.false_eq_true, if_false]
      split
      next right =>
        have sized : Sized read request.index
            (some (.bytes (limited ⟨request, .writeStream read⟩ read).content)) :=
          ⟨_, rfl, right⟩
        refine iff_of_true (fun _ wrong => absurd right wrong) ⟨others.mpr (.inl sized), ?_⟩
        intro _
        rw [updated.stored_self]
        exact sized
      next wrong =>
        have unsized : ¬Sized read request.index
            (some (.bytes (limited ⟨request, .writeStream read⟩ read).content)) := by
          rintro ⟨bytes, same, size⟩
          cases same
          exact wrong size
        rw [others]
        constructor
        · intro spares
          exact ⟨.inr (spares trivial wrong), nofun⟩
        · rintro ⟨either, -⟩ _ _
          exact either.resolve_left unsized
  | delete error =>
    have updated : Updated uploadID (.chunk request.index) none memory
        (memory.delete (pathText (chunkPath uploadID request.index))) := (updated_delete _)
    have others := acknowledged_updated_iff updated acknowledged
    have unsized : ¬Sized session request.index none := by
      rintro ⟨bytes, same, -⟩
      cases same
    constructor
    · intro spares
      exact ⟨others.mpr (.inr spares), nofun⟩
    · rintro ⟨either, -⟩
      exact (others.mp either).resolve_left unsized
  | returned result => exact iff_of_true trivial ⟨acknowledged, own⟩

end ChunkCall

def chunkPool (uploadID : Name) (session : Session) (memory : InMemoryFileManager Object)
    (requests : List ChunkRequest) : Pool (InMemoryFileManager Object) ChunkCall where
  shared := memory.write (pathText (metadataPath uploadID)) (.session session)
  calls := requests.map ChunkCall.start

theorem entered_act (entered : Entered session uploadID memory (before ++ call :: after)) :
    Entered session uploadID (call.act uploadID now memory).1
      (before ++ (call.act uploadID now memory).2 :: after) := by
  obtain ⟨live, hold⟩ := entered
  obtain ⟨othersHold, holds⟩ := Pool.forall_calls.mp hold
  refine ⟨?_, Pool.forall_calls.mpr ⟨othersHold, ChunkCall.act_holds live holds⟩⟩
  intro object found
  rw [ChunkCall.stored_act (by simp)] at found
  exact live object found

theorem acknowledged_act_iff (entered : Entered session uploadID memory (before ++ call :: after))
    (acknowledged : Acknowledged session uploadID memory (before ++ call :: after)) :
    call.Spares now memory (before ++ after) ↔
      Acknowledged session uploadID (call.act uploadID now memory).1
        (before ++ (call.act uploadID now memory).2 :: after) := by
  obtain ⟨-, holds⟩ := Pool.forall_calls.mp entered.2
  obtain ⟨others, own⟩ := Pool.forall_calls.mp acknowledged
  exact (ChunkCall.spares_iff holds others own).trans Pool.forall_calls.symm

section

variable (uploadID : Name) (session : Session) (memory : InMemoryFileManager Object)
  (requests : List ChunkRequest)

theorem chunkPool_entered :
    Entered session uploadID (chunkPool uploadID session memory requests).shared
      (chunkPool uploadID session memory requests).calls := by
  refine ⟨?_, ?_⟩
  · exact live_write memory
  · intro call member
    obtain ⟨request, -, rfl⟩ := List.mem_map.mp member
    trivial

theorem chunkPool_acknowledged :
    Acknowledged session uploadID (chunkPool uploadID session memory requests).shared
      (chunkPool uploadID session memory requests).calls := by
  intro call member success
  obtain ⟨request, -, rfl⟩ := List.mem_map.mp member
  cases success

def chunkRun (events : List (Nat × Int)) : Pool (InMemoryFileManager Object) ChunkCall :=
  run (Pool.step (ChunkCall.act uploadID)) (chunkPool uploadID session memory requests) events

theorem acknowledged_chunks_stay_iff (events : List (Nat × Int)) :
    Along (Pool.step (ChunkCall.act uploadID)) (Pool.Admits ChunkCall.Spares)
        (chunkPool uploadID session memory requests) events ↔
      ∀ first rest, events = first ++ rest →
        Acknowledged session uploadID (chunkRun uploadID session memory requests first).shared
          (chunkRun uploadID session memory requests first).calls := by
  exact Pool.along_iff_always_of_sound
    (fun pool => Entered session uploadID pool.shared pool.calls)
    (fun pool => Acknowledged session uploadID pool.shared pool.calls)
    (fun _ _ _ _ _ entered => entered_act entered)
    (fun _ _ _ _ _ entered acknowledged => acknowledged_act_iff entered acknowledged)
    (chunkPool_entered uploadID session memory requests)
    (chunkPool_acknowledged uploadID session memory requests)

end

def twoByteSession : Session where
  uploadID := chunkName 0
  serverID := 1
  nodeID := 1
  userID := 1
  fullPath := "server.jar"
  suUser := ""
  totalSize := 2
  chunkSize := 2
  totalChunks := 1
  expectedChecksum := List.replicate 64 '0'
  createdAt := 1
  expiresAt := 0

def attemptAndRetry : List ChunkRequest := [⟨1, 0, ⟨[7], false⟩⟩, ⟨1, 0, ⟨[7, 8], false⟩⟩]

theorem retry_lost : (chunkRun (chunkName 0) twoByteSession .empty attemptAndRetry
        [(0, 1), (0, 1), (0, 1), (1, 1), (1, 1), (1, 1), (0, 1)]).calls.map ChunkCall.succeeded =
      [false, true] ∧
    ¬Acknowledged twoByteSession (chunkName 0)
      (chunkRun (chunkName 0) twoByteSession .empty attemptAndRetry
        [(0, 1), (0, 1), (0, 1), (1, 1), (1, 1), (1, 1), (0, 1)]).shared
      (chunkRun (chunkName 0) twoByteSession .empty attemptAndRetry
        [(0, 1), (0, 1), (0, 1), (1, 1), (1, 1), (1, 1), (0, 1)]).calls := by
  refine ⟨by decide, ?_⟩
  intro acknowledged
  obtain ⟨bytes, found, -⟩ :=
    acknowledged ⟨⟨1, 0, ⟨[7, 8], false⟩⟩, .returned (.ok ())⟩ (by exact .tail _ (.head _)) rfl
  cases found

end ShadowPanel.Upload
