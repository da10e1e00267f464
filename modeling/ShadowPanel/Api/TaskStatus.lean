import ShadowPanel.Api.Errors
import ShadowPanel.Tasks.Handler

namespace ShadowPanel.Api

open Data Domain Filters Repositories Tasks

/-! The stream of a task's status: the handler of `internal/api/ws/taskstatus`, the client
and the hub of `internal/ws`, and the reports of `internal/grpc/handlers/task_handler.go`
that are published to it, as programs of the calls that they make.  The publisher is
`internal/pubsub/memory`, which calls the hub before it returns. -/

inductive OutboundMessage where
  | taskStatus (taskID : Nat) (status : DaemonTaskStatus) (serverID : Option Nat)
      (message : String)
  | taskOutput (taskID : Nat) (chunk : String)
  | taskComplete (taskID : Nat) (status : DaemonTaskStatus) (serverID : Option Nat)

def OutboundMessage.status? : OutboundMessage → Option DaemonTaskStatus
  | .taskStatus _ status _ _ | .taskComplete _ status _ => some status
  | .taskOutput _ _ => none

/-- `subscribers` asks the hub for the clients of the topic, of which one is looked at. -/
inductive StreamOp where
  | findWithOutput (filter : FindDaemonTask) (pagination : Option Pagination)
  | checkAuthorization (task : DaemonTask)
  | accept
  | register
  | send (message : OutboundMessage)
  | run
  | find (filter : FindDaemonTask)
  | save (task : DaemonTask)
  | updateServerInstalledStatus (task : DaemonTask)
  | subscribers

abbrev StreamOp.Answer : StreamOp → Type
  | .findWithOutput _ _ | .find _ => Except String (List DaemonTask)
  | .checkAuthorization _ => Except HandlerError Unit
  | .accept | .save _ => Except String Unit
  | .subscribers => Bool
  | .register | .send _ | .run | .updateServerInstalledStatus _ => Unit

abbrev StreamProgram := Program StreamOp StreamOp.Answer HandlerError

def onStream (op : StreamOp) : StreamProgram op.Answer := Program.perform op

def findAndAuthorize (taskID : Nat) : StreamProgram DaemonTask := do
  let tasks ← orFail "failed to find daemon task"
    (← onStream (.findWithOutput (findDaemonTaskByIDs [taskID]) (some ⟨1, 0⟩)))
  match tasks with
  | [] => throw ⟨404, "daemon task not found"⟩
  | task :: _ =>
    orThrow (← onStream (.checkAuthorization task))
    pure task

def sendInitialState (task : DaemonTask) : StreamProgram Unit := do
  onStream (.send (.taskStatus task.id task.status task.serverID ""))
  if task.output.getD "" ≠ "" then
    onStream (.send (.taskOutput task.id (task.output.getD "")))
  if task.status.isTerminal then
    onStream (.send (.taskComplete task.id task.status none))

def taskStatus (taskID : Nat) : StreamProgram Unit := do
  let task ← findAndAuthorize taskID
  match ← onStream .accept with
  | .error _ => pure ()
  | .ok _ =>
    onStream .register
    sendInitialState task
    onStream .run

def publish (message : OutboundMessage) : StreamProgram Unit := do
  if ← onStream .subscribers then onStream (.send message)

def publishReport (taskID : Nat) (task : DaemonTask) (message : String) : StreamProgram Unit := do
  publish (.taskStatus taskID task.status (some task.dedicatedServerID) message)
  if task.status.isTerminal then
    publish (.taskComplete taskID task.status (some task.dedicatedServerID))

/-- `HandleTaskStatusUpdate`, with the message that comes with the update. -/
def reportTaskStatus (update : TaskStatusUpdate) (message : String) : StreamProgram Unit := do
  let tasks ← orFail "find task" (← onStream (.find (findDaemonTaskByIDs [update.taskID])))
  match tasks with
  | [] => pure ()
  | found :: _ =>
    let task := { found with status := update.reported }
    orFail "save task status" (← onStream (.save task))
    onStream (.updateServerInstalledStatus task)
    publishReport update.taskID task message

def defaultSendBufferSize : Nat := 64

/-- `registered` and `running` tell how far the client has come, `buffer` is what it has
to write, and `received` what it has written. -/
structure StreamState where
  tasks : DaemonTaskRepository
  registered : Bool
  running : Bool
  buffer : List OutboundMessage
  received : List OutboundMessage

namespace StreamState

variable (state : StreamState)

def send (message : OutboundMessage) : StreamState :=
  if state.buffer.length < defaultSendBufferSize then
    { state with buffer := state.buffer ++ [message] }
  else state

def write (count : Nat) : StreamState :=
  if state.running then
    { state with
      buffer := state.buffer.drop count
      received := state.received ++ state.buffer.take count }
  else state

end StreamState

/-- What a call meets: the clock, whether it fails, whether the user may see the task,
and how many messages the client wrote before. -/
structure StreamInput where
  now : Int
  fault : Option String
  authorized : Except HandlerError Unit
  written : Nat

def StreamInput.answer {α : Type} (input : StreamInput) (value : α) : Except String α :=
  match input.fault with
  | some text => .error text
  | none => .ok value

def streamOp (input : StreamInput) (state : StreamState) : (op : StreamOp) → StreamState × op.Answer
  | .findWithOutput filter pagination =>
    (state, input.answer (state.tasks.findWithOutput filter pagination))
  | .checkAuthorization _ => (state, input.authorized)
  | .accept => (state, input.answer ())
  | .register => ({ state with registered := true }, ())
  | .send message => (state.send message, ())
  | .run => ({ state with running := true }, ())
  | .find filter => (state, input.answer (state.tasks.find filter none))
  | .save task =>
    (match input.fault with
      | some _ => state
      | none => { state with tasks := state.tasks.save input.now task },
      input.answer ())
  | .updateServerInstalledStatus _ => (state, ())
  | .subscribers => (state, state.registered)

end ShadowPanel.Api
