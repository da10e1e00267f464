import Mathlib.Data.Finset.Card
import ShadowPanel.Files.Managers
import ShadowPanel.Upload.Session

namespace ShadowPanel.Upload

open Data Files List

universe u

/-- What is stored: the JSON of a session or of the sentinel, or raw bytes. -/
inductive Object where
  | session (session : Session)
  | done (info : DoneInfo)
  | bytes (content : Bytes)
  deriving DecidableEq

def Object.raw : Object → Option Bytes
  | .bytes content => some content
  | _ => none

inductive UploadError where
  | sessionNotFound
  | sessionForbidden
  | sessionExpired
  | invalidIndex
  | chunkSizeMismatch
  | incompleteUpload
  | checksumMismatch
  | invalidChecksum
  | invalidTotalSize
  | tooManyChunks
  | sessionAlreadyDone
  | nodeMismatch
  | chunkSizeNotConfigured
  | writeSessionMetadata
  | unmarshalSessionMetadata
  | writeChunk
  | listUploadedChunks
  | assembleUploadData
  | dispatchUploadToDaemon
  | deleteUploadSession

structure Config where
  chunkSize : UInt64
  sessionTTL : Int
  maxChunks : UInt64

structure CreateParams where
  serverID : Nat
  nodeID : Nat
  userID : Nat
  fullPath : String
  suUser : String
  totalSize : UInt64
  expectedChecksum : List Char

structure SessionStatus where
  session : Session
  receivedChunks : List Nat
  missingChunks : List Nat
  uploadedBytes : UInt64
  completed : Bool

def isHexDigit (char : Char) : Bool :=
  ('0' ≤ char && char ≤ '9') || ('a' ≤ char && char ≤ 'f') || ('A' ≤ char && char ≤ 'F')

def isHexSHA256 (text : List Char) : Bool := text.length == 64 && text.all isHexDigit

/-- The sum wraps around in 64 bits, as it does in the source. -/
def totalChunksFor (totalSize chunkSize : UInt64) : UInt64 :=
  let totalChunks := (totalSize + chunkSize - 1) / chunkSize
  if totalChunks = 0 then 1 else totalChunks

def maxInt64 : Nat := 0x7FFFFFFFFFFFFFFF

def safeChunkLimit (expectedSize : UInt64) : Nat :=
  if maxInt64 ≤ expectedSize.toNat then maxInt64 else expectedSize.toNat + 1

/-- `io.LimitReader`: what stands after the limit is not read, nor its error met. -/
def limitReader (limit : Nat) (body : Reader Bytes) : Reader Bytes where
  content := body.content.take limit
  fails := body.fails && decide (body.content.length < limit)

def verifyAccess (now : Int) (userID : Nat) (session : Session) : Except UploadError Unit :=
  if session.userID ≠ userID then .error .sessionForbidden
  else if session.expiresAt ≠ 0 ∧ session.expiresAt < now then .error .sessionExpired
  else .ok ()

def newSession (cfg : Config) (now : Int) (uploadID : Name) (params : CreateParams) :
    Except UploadError Session :=
  if params.totalSize = 0 then .error .invalidTotalSize
  else if !isHexSHA256 params.expectedChecksum then .error .invalidChecksum
  else if cfg.chunkSize = 0 then .error .chunkSizeNotConfigured
  else if 0 < cfg.maxChunks ∧ cfg.maxChunks < totalChunksFor params.totalSize cfg.chunkSize then
    .error .tooManyChunks
  else .ok {
    uploadID
    serverID := params.serverID
    nodeID := params.nodeID
    userID := params.userID
    fullPath := params.fullPath
    suUser := params.suUser
    totalSize := params.totalSize
    chunkSize := cfg.chunkSize
    totalChunks := totalChunksFor params.totalSize cfg.chunkSize
    expectedChecksum := params.expectedChecksum.map Char.toLower
    createdAt := now
    expiresAt := now + cfg.sessionTTL }

section

variable {σ : Type u} (fm : StreamFileManager σ Object)

def deleteQuietly (storage : σ) (path : Path) : σ := (fm.delete storage path).getD storage

def create (cfg : Config) (now : Int) (uploadID : Name) (params : CreateParams) (storage : σ) :
    σ × Except UploadError Session :=
  match newSession cfg now uploadID params with
  | .error error => (storage, .error error)
  | .ok session =>
    match fm.write storage (metadataPath uploadID) (.session session) with
    | none => (storage, .error .writeSessionMetadata)
    | some written => (written, .ok session)

def load (storage : σ) (uploadID : Name) : Except UploadError Session :=
  match fm.read storage (metadataPath uploadID) with
  | none => .error .sessionNotFound
  | some (.session session) => .ok session
  | some _ => .error .unmarshalSessionMetadata

/-- `load` and then `verifyAccess`, with which all calls on a session begin. -/
def enter (now : Int) (uploadID : Name) (userID : Nat) (storage : σ) :
    Except UploadError Session := do
  let session ← load fm storage uploadID
  verifyAccess now userID session
  return session

def storeChunk (session : Session) (uploadID : Name) (index : Nat) (body : Reader Bytes)
    (storage : σ) : σ × Except UploadError Unit :=
  let expectedSize := session.chunkSizeFor index
  let limited := limitReader (safeChunkLimit expectedSize) body
  match fm.writeStream storage (chunkPath uploadID index)
      ⟨.bytes limited.content, limited.fails⟩ with
  | (written, false) =>
    (deleteQuietly fm written (chunkPath uploadID index), .error .writeChunk)
  | (written, true) =>
    if limited.content.length ≠ expectedSize.toNat then
      (deleteQuietly fm written (chunkPath uploadID index), .error .chunkSizeMismatch)
    else (written, .ok ())

def writeChunk (now : Int) (uploadID : Name) (userID index : Nat) (body : Reader Bytes)
    (storage : σ) : σ × Except UploadError Unit :=
  match enter fm now uploadID userID storage with
  | .error error => (storage, .error error)
  | .ok session =>
    if fm.existsAt storage (donePath uploadID) then (storage, .error .sessionAlreadyDone)
    else if session.totalChunks.toNat ≤ index then (storage, .error .invalidIndex)
    else storeChunk fm session uploadID index body storage

def receivedChunks (storage : σ) (uploadID : Name) : Except UploadError (Finset Nat) :=
  match fm.list storage (chunksDir uploadID) with
  | none => .error .listUploadedChunks
  | some paths => .ok (paths.filterMap (indexFromChunkPath uploadID)).toFinset

def statusOf (session : Session) (received : Finset Nat) (completed : Bool) : SessionStatus where
  session
  receivedChunks := (range session.totalChunks.toNat).filter (· ∈ received)
  missingChunks := (range session.totalChunks.toNat).filter (· ∉ received)
  uploadedBytes := ((range session.totalChunks.toNat).filter (· ∈ received)).foldl
    (fun uploaded index => uploaded + session.chunkSizeFor index) 0
  completed

def status (now : Int) (uploadID : Name) (userID : Nat) (storage : σ) :
    Except UploadError SessionStatus := do
  let session ← enter fm now uploadID userID storage
  let received ← receivedChunks fm storage session.uploadID
  return statusOf session received (fm.existsAt storage (donePath uploadID))

/-- The readers of the chunks one after the other: each is opened when it is
reached, and the first that cannot be opened breaks the stream off. -/
def readChunks (storage : σ) (uploadID : Name) : List Nat → Reader Bytes
  | [] => ⟨[], false⟩
  | index :: rest =>
    match (fm.readStream storage (chunkPath uploadID index)).bind Object.raw with
    | none => ⟨[], true⟩
    | some chunk =>
      let later := readChunks storage uploadID rest
      ⟨chunk ++ later.content, later.fails⟩

def AllReceived (session : Session) (received : Finset Nat) : Prop :=
  received.card = session.totalChunks.toNat ∧
    ∀ index ∈ range session.totalChunks.toNat, index ∈ received

instance (session : Session) (received : Finset Nat) :
    Decidable (AllReceived session received) := by
  unfold AllReceived
  infer_instance

structure Completion (σ : Type u) where
  storage : σ
  result : Except UploadError Unit
  /-- Whether the goroutine of `cleanupAfterComplete` was started. -/
  cleanup : Bool

def Completion.failed (storage : σ) (error : UploadError) : Completion σ :=
  ⟨storage, .error error, false⟩

/-- `Complete` after its checks: assemble, compare, dispatch, leave the sentinel. -/
def assemble (sha256 : Bytes → List Char) (session : Session) (uploadID : Name) (dispatched : Bool)
    (storage : σ) : Completion σ :=
  let data := readChunks fm storage uploadID (range session.totalChunks.toNat)
  match fm.writeStream storage (dataPath uploadID) ⟨.bytes data.content, data.fails⟩ with
  | (written, false) =>
    .failed (deleteQuietly fm written (dataPath uploadID)) .assembleUploadData
  | (written, true) =>
    if sha256 data.content ≠ session.expectedChecksum then
      .failed (deleteQuietly fm written (dataPath uploadID)) .checksumMismatch
    else if !dispatched then
      .failed (deleteQuietly fm written (dataPath uploadID)) .dispatchUploadToDaemon
    else
      { storage := (fm.write written (donePath uploadID)
          (.done ⟨true, sha256 data.content⟩)).getD written
        result := .ok ()
        cleanup := true }

def complete (sha256 : Bytes → List Char) (now : Int) (uploadID : Name) (userID : Nat)
    (node : Option Nat) (dispatched : Bool) (storage : σ) : Completion σ :=
  match enter fm now uploadID userID storage with
  | .error error => .failed storage error
  | .ok session =>
    if node ≠ some session.nodeID then .failed storage .nodeMismatch
    else if fm.existsAt storage (donePath uploadID) then ⟨storage, .ok (), false⟩
    else
      match receivedChunks fm storage uploadID with
      | .error error => .failed storage error
      | .ok received =>
        if AllReceived session received then
          assemble fm sha256 session uploadID dispatched storage
        else .failed storage .incompleteUpload

def cleanupAfterComplete (uploadID : Name) (storage : σ) : σ :=
  deleteQuietly fm
    ((fm.deleteByPrefix storage (dirText (chunksDir uploadID))).getD storage) (dataPath uploadID)

def abort (now : Int) (uploadID : Name) (userID : Nat) (storage : σ) :
    σ × Except UploadError Unit :=
  match load fm storage uploadID with
  | .error .sessionNotFound => (storage, .ok ())
  | .error error => (storage, .error error)
  | .ok session =>
    match verifyAccess now userID session with
    | .error error => (storage, .error error)
    | .ok () =>
      match fm.deleteByPrefix storage (dirText (transferRoot uploadID)) with
      | none => (storage, .error .deleteUploadSession)
      | some left => (left, .ok ())

end

structure IdGenerator where
  new : Nat → Name
  unique : Function.Injective new

inductive Call where
  | create (now : Int) (params : CreateParams)
  | writeChunk (now : Int) (uploadID : Name) (userID index : Nat) (body : Reader Bytes)
  | status (now : Int) (uploadID : Name) (userID : Nat)
  | complete (now : Int) (uploadID : Name) (userID : Nat) (node : Option Nat) (dispatched : Bool)
  | abort (now : Int) (uploadID : Name) (userID : Nat)
  | cleanup (uploadID : Name)

inductive Answer where
  | created (result : Except UploadError Session)
  | ended (result : Except UploadError Unit)
  | reported (result : Except UploadError SessionStatus)
  | silent

structure ServiceState (σ : Type u) where
  storage : σ
  issued : Nat
  cleanups : List Name

structure Setup where
  cfg : Config
  ids : IdGenerator
  sha256 : Bytes → List Char

namespace Setup

variable {σ : Type u} (setup : Setup) (fm : StreamFileManager σ Object)

def respond (state : ServiceState σ) : Call → ServiceState σ × Answer
  | .create now params =>
    let (storage, result) :=
      create fm setup.cfg now (setup.ids.new state.issued) params state.storage
    ({ state with storage, issued := state.issued + 1 }, .created result)
  | .writeChunk now uploadID userID index body =>
    let (storage, result) := writeChunk fm now uploadID userID index body state.storage
    ({ state with storage }, .ended result)
  | .status now uploadID userID => (state, .reported (status fm now uploadID userID state.storage))
  | .complete now uploadID userID node dispatched =>
    let completion := complete fm setup.sha256 now uploadID userID node dispatched state.storage
    ({ state with
        storage := completion.storage
        cleanups := if completion.cleanup then uploadID :: state.cleanups else state.cleanups },
      .ended completion.result)
  | .abort now uploadID userID =>
    let (storage, result) := abort fm now uploadID userID state.storage
    ({ state with storage }, .ended result)
  | .cleanup uploadID =>
    if uploadID ∈ state.cleanups then
      ({ state with
          storage := cleanupAfterComplete fm uploadID state.storage
          cleanups := state.cleanups.erase uploadID }, .silent)
    else (state, .silent)

end Setup

end ShadowPanel.Upload
