import ShadowPanel.Data.Wire
import ShadowPanel.Pubsub.Messages

namespace ShadowPanel.Daemon

open Data Pubsub

/-! Reading a file of a node, as `Download` of `internal/daemon/file.go` does it:
over the session on this instance, or through `internal/daemon/file_dispatcher.go`
over the instance that has the session. -/

abbrev Skip := Nat → Bytes → Except WireError Bytes

def takeUnknown {Message : Type} (skip : Skip) (message : Message) (wireType : Nat)
    (bytes : Bytes) : Except WireError (Message × Bytes) :=
  match skip wireType bytes with
  | .error err => .error err
  | .ok rest => .ok (message, rest)

/-- The numbers are the bits of signed ones. -/
structure FileReadRequest where
  path : WireText
  maxSize : UInt64
  offset : UInt64
  length : UInt64

namespace FileReadRequest

def zero : FileReadRequest where
  path := .empty
  maxSize := 0
  offset := 0
  length := 0

def marshalVT (request : FileReadRequest) : Bytes :=
  textField 0x0a request.path ++
    (numberField 0x10 request.maxSize.toNat ++
      (numberField 0x18 request.offset.toNat ++ numberField 0x20 request.length.toNat))

def take (skip : Skip) : TakeField FileReadRequest
  | 1, wireType, bytes, request =>
    takeText (fun path => { request with path := path }) wireType bytes
  | 2, wireType, bytes, request =>
    takeNumber (fun number => { request with maxSize := .ofNat number }) wireType bytes
  | 3, wireType, bytes, request =>
    takeNumber (fun number => { request with offset := .ofNat number }) wireType bytes
  | 4, wireType, bytes, request =>
    takeNumber (fun number => { request with length := .ofNat number }) wireType bytes
  | _, wireType, bytes, request => takeUnknown skip request wireType bytes

def unmarshalVT (skip : Skip) (bytes : Bytes) : Except WireError FileReadRequest :=
  unmarshal (take skip) zero bytes

end FileReadRequest

/-- Content that is nil is told apart from empty content. -/
structure FileReadResponse where
  requestID : WireText
  success : Bool
  content : Option WireText
  transferID : WireText
  error : WireText

namespace FileReadResponse

def zero : FileReadResponse where
  requestID := .empty
  success := false
  content := none
  transferID := .empty
  error := .empty

def bytes (response : FileReadResponse) : WireText := response.content.getD .empty

def marshalVT (response : FileReadResponse) : Bytes :=
  textField 0x0a response.requestID ++
    (numberField 0x10 response.success.toNat ++
      (textField 0x1a response.bytes ++
        (textField 0x22 response.transferID ++ textField 0x2a response.error)))

def take (skip : Skip) : TakeField FileReadResponse
  | 1, wireType, bytes, response =>
    takeText (fun text => { response with requestID := text }) wireType bytes
  | 2, wireType, bytes, response =>
    takeNumber (fun number => { response with success := number != 0 }) wireType bytes
  | 3, wireType, bytes, response =>
    takeText (fun text => { response with content := some text }) wireType bytes
  | 4, wireType, bytes, response =>
    takeText (fun text => { response with transferID := text }) wireType bytes
  | 5, wireType, bytes, response =>
    takeText (fun text => { response with error := text }) wireType bytes
  | _, wireType, bytes, response => takeUnknown skip response wireType bytes

def unmarshalVT (skip : Skip) (bytes : Bytes) : Except WireError FileReadResponse :=
  unmarshal (take skip) zero bytes

/-- What is left of a message that has been sent: empty content becomes nil. -/
def received (response : FileReadResponse) : FileReadResponse :=
  { response with
    content := if response.bytes.bytes = [] then none else some response.bytes }

end FileReadResponse

@[simp] theorem FileReadRequest.unmarshalVT_marshalVT (skip : Skip) (request : FileReadRequest) :
    unmarshalVT skip request.marshalVT = .ok request := by
  apply Decodes.unmarshal
  unfold marshalVT
  rw [← List.append_nil (numberField 0x20 _)]
  refine Decodes.text (by decide) (by decide) (by decide) (fun _ => rfl) rfl ?_
  refine Decodes.number request.maxSize.toNat_lt (by decide) (by decide) (by decide)
    (fun _ => rfl) rfl ?_
  refine Decodes.number request.offset.toNat_lt (by decide) (by decide) (by decide)
    (fun _ => rfl) rfl ?_
  refine Decodes.number request.length.toNat_lt (by decide) (by decide) (by decide)
    (fun _ => rfl) rfl (Decodes.nil ?_)
  simp only [UInt64.ofNat_toNat]

@[simp] theorem FileReadResponse.unmarshalVT_marshalVT (skip : Skip) (response : FileReadResponse) :
    unmarshalVT skip response.marshalVT = .ok response.received := by
  apply Decodes.unmarshal
  unfold marshalVT
  rw [← List.append_nil (textField 0x2a _)]
  refine Decodes.text (by decide) (by decide) (by decide) (fun _ => rfl) rfl ?_
  refine Decodes.number (Nat.lt_of_le_of_lt response.success.toNat_le (by decide)) (by decide)
    (by decide) (by decide) (fun _ => rfl) rfl ?_
  refine Decodes.optionalText (by decide) (by decide) (by decide) (fun _ => rfl) ?_
  refine Decodes.text (by decide) (by decide) (by decide) (fun _ => rfl) (by split <;> rfl) ?_
  refine Decodes.text (by decide) (by decide) (by decide) (fun _ => rfl) (by split <;> rfl)
    (Decodes.nil ?_)
  unfold received
  cases response.success <;> split <;> simp_all [zero]

abbrev Gateway := FileReadRequest → Except String FileReadResponse

structure DaemonFileRequestPayload where
  nodeID : UInt64
  requestID : String
  instanceID : String
  operation : String
  data : Bytes

/-- The fields that a request for a file leaves empty are not written. -/
def DaemonFileRequestPayload.size (payload : DaemonFileRequestPayload) : Nat :=
  recordSize ([("node_id", (toString payload.nodeID).length),
    ("request_id", textSize payload.requestID), ("instance_id", textSize payload.instanceID),
    ("operation", textSize payload.operation)] ++ optionalBytes "data" payload.data.length)

structure DaemonFileResponsePayload where
  requestID : String
  error : String
  data : Bytes
  storagePath : String

def DaemonFileResponsePayload.size (payload : DaemonFileResponsePayload) : Nat :=
  recordSize ([("request_id", textSize payload.requestID)] ++ optionalText "error" payload.error ++
    optionalBytes "data" payload.data.length ++ optionalText "storage_path" payload.storagePath)

def unmarshalMessage : WireError → String
  | .intOverflow => "proto: integer overflow"
  | .unexpectedEOF => "unexpected EOF"
  | .invalidLength => "proto: negative length found during unmarshaling"
  | .endGroup => "proto: FileReadRequest: wiretype end group for non-group"
  | .illegalTag => "proto: FileReadRequest: illegal tag"
  | .wrongWireType => "proto: wrong wireType"

def execFileRead (skip : Skip) (gateway : Gateway) (payload : DaemonFileRequestPayload) :
    DaemonFileResponsePayload :=
  match FileReadRequest.unmarshalVT skip payload.data with
  | .error err => ⟨payload.requestID, unmarshalMessage err, [], ""⟩
  | .ok request =>
    match gateway request with
    | .error err => ⟨payload.requestID, err, [], ""⟩
    | .ok response => ⟨payload.requestID, "", response.marshalVT, ""⟩

inductive DownloadError where
  | fileReadRequest (err : String)
  | fileReadFailed (error : WireText)
  | publish
  | timedOut
  | dispatch (err : String)
  | unmarshal (err : WireError)
  | storage (path : String)

structure FileReadResult where
  content : Option WireText
  storagePath : String

structure Envelope where
  id : String
  timestamp : String
  source : String

/-- One request to the node of another instance, and the messages that carry it. -/
structure Dispatch where
  driver : Driver
  nodeID : UInt64
  requestID : String
  instanceID : String
  asking : Envelope
  answering : Envelope

namespace Dispatch

section

variable (dispatch : Dispatch)

def payload (path : WireText) : DaemonFileRequestPayload where
  nodeID := dispatch.nodeID
  requestID := dispatch.requestID
  instanceID := dispatch.instanceID
  operation := "file_read"
  data := FileReadRequest.marshalVT ⟨path, 0, 0, 0⟩

def requestMessage (payload : DaemonFileRequestPayload) : Message where
  id := dispatch.asking.id
  channel := "gameap:daemon:file:request:" ++ toString payload.nodeID
  type := "daemon.file.request"
  payload := payload.size
  timestamp := dispatch.asking.timestamp
  source := dispatch.asking.source

def responseMessage (payload : DaemonFileResponsePayload) : Message where
  id := dispatch.answering.id
  channel := "gameap:daemon:file:response:" ++ dispatch.instanceID
  type := "daemon.file.response"
  payload := payload.size
  timestamp := dispatch.answering.timestamp
  source := dispatch.answering.source

/-- An answer that cannot be published is only logged, where the node is. -/
def dispatchAndWait (skip : Skip) (gateway : Gateway) (payload : DaemonFileRequestPayload) :
    Except DownloadError DaemonFileResponsePayload :=
  if dispatch.driver.publish (dispatch.requestMessage payload) then
    let answer := execFileRead skip gateway payload
    if dispatch.driver.publish (dispatch.responseMessage answer) then
      if answer.error ≠ "" then .error (.dispatch answer.error) else .ok answer
    else .error .timedOut
  else .error .publish

def dispatchFileRead (skip : Skip) (gateway : Gateway) (path : WireText) :
    Except DownloadError FileReadResult :=
  match dispatch.dispatchAndWait skip gateway (dispatch.payload path) with
  | .error err => .error err
  | .ok answer =>
    if answer.storagePath ≠ "" then .ok ⟨none, answer.storagePath⟩
    else
      match FileReadResponse.unmarshalVT skip answer.data with
      | .error err => .error (.unmarshal err)
      | .ok response =>
        if response.success then .ok ⟨response.content, ""⟩
        else .error (.fileReadFailed response.error)

/-- The request for a file and the answer to it are of a size that the driver publishes. -/
def Carries (path : WireText) (response : FileReadResponse) : Prop :=
  dispatch.driver.publish (dispatch.requestMessage (dispatch.payload path)) = true ∧
    dispatch.driver.publish (dispatch.responseMessage
      ⟨dispatch.requestID, "", response.marshalVT, ""⟩) = true

end

instance (dispatch : Dispatch) (path : WireText) (response : FileReadResponse) :
    Decidable (dispatch.Carries path response) :=
  inferInstanceAs (Decidable (_ ∧ _))

end Dispatch

def downloadLocal (gateway : Gateway) (path : WireText) : Except DownloadError Bytes :=
  match gateway ⟨path, 0, 0, 0⟩ with
  | .error err => .error (.fileReadRequest err)
  | .ok response =>
    if response.success then .ok response.bytes.bytes
    else .error (.fileReadFailed response.error)

def downloadRemote (dispatch : Dispatch) (skip : Skip) (gateway : Gateway)
    (storage : String → Option Bytes) (path : WireText) : Except DownloadError Bytes :=
  match dispatch.dispatchFileRead skip gateway path with
  | .error err => .error err
  | .ok result =>
    match result.content with
    | some content => .ok content.bytes
    | none =>
      match storage result.storagePath with
      | none => .error (.storage result.storagePath)
      | some data => .ok data

def Agree : Except DownloadError Bytes → Except DownloadError Bytes → Prop
  | .ok left, .ok right => left = right
  | .error _, .error _ => True
  | _, _ => False

namespace Dispatch

theorem execFileRead_payload (dispatch : Dispatch) (skip : Skip) (gateway : Gateway)
    (path : WireText) :
    execFileRead skip gateway (dispatch.payload path) =
      match gateway ⟨path, 0, 0, 0⟩ with
      | .error err => ⟨dispatch.requestID, err, [], ""⟩
      | .ok response => ⟨dispatch.requestID, "", response.marshalVT, ""⟩ := by
  simp only [execFileRead, payload, FileReadRequest.unmarshalVT_marshalVT]

theorem dispatchFileRead_of_carries (skip : Skip)
    (answered : gateway ⟨path, 0, 0, 0⟩ = .ok response) (carries : Carries dispatch path response) :
    dispatch.dispatchFileRead skip gateway path =
      if response.success then .ok ⟨response.received.content, ""⟩
      else .error (.fileReadFailed response.error) := by
  simp only [dispatchFileRead, dispatchAndWait, execFileRead_payload, answered, carries.1,
    carries.2, if_true, ne_eq, not_true_eq_false, if_false,
    FileReadResponse.unmarshalVT_marshalVT]
  rfl

theorem dispatchFileRead_of_not_carries (skip : Skip)
    (answered : gateway ⟨path, 0, 0, 0⟩ = .ok response)
    (refused : ¬Carries dispatch path response) :
    ∃ err, dispatch.dispatchFileRead skip gateway path = .error err := by
  simp only [dispatchFileRead, dispatchAndWait, execFileRead_payload, answered]
  by_cases asked : dispatch.driver.publish (dispatch.requestMessage (dispatch.payload path))
  · have unsent : ¬dispatch.driver.publish (dispatch.responseMessage
        ⟨dispatch.requestID, "", response.marshalVT, ""⟩) = true :=
      fun sent => refused ⟨asked, sent⟩
    simp [asked, unsent]
  · simp [asked]

theorem dispatchFileRead_of_error (dispatch : Dispatch) (skip : Skip)
    (failed : gateway ⟨path, 0, 0, 0⟩ = .error err) :
    ∃ wrapped, dispatch.dispatchFileRead skip gateway path = .error wrapped := by
  simp only [dispatchFileRead, dispatchAndWait, execFileRead_payload, failed]
  by_cases asked : dispatch.driver.publish (dispatch.requestMessage (dispatch.payload path))
  · by_cases sent : dispatch.driver.publish
        (dispatch.responseMessage ⟨dispatch.requestID, err, [], ""⟩)
    · by_cases silent : err = ""
      · -- an error without a text is taken for an answer, and decoded to no success
        subst silent
        simp only [asked, sent, if_true, ne_eq, not_true_eq_false, if_false]
        exact ⟨_, rfl⟩
      · simp [asked, sent, silent]
    · simp [asked, sent]
  · simp [asked]

end Dispatch

def overRedis : Dispatch where
  driver := .redis
  nodeID := 1
  requestID := "d1n6m2k0000000000000"
  instanceID := "panel-1"
  asking := ⟨"d1n6m2k0000000000001", "2026-01-02T03:04:05Z", "panel-1"⟩
  answering := ⟨"d1n6m2k0000000000002", "2026-01-02T03:04:05Z", "panel-2"⟩

def emptyFile : Gateway := fun _ => .ok ⟨.empty, true, some .empty, .empty, .empty⟩

end ShadowPanel.Daemon
