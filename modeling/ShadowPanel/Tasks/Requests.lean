import ShadowPanel.Domain.Nodes
import ShadowPanel.Repositories.Tasks

namespace ShadowPanel.Tasks

open Domain Filters Repositories Repositories.DaemonTaskRepository

/-! The requests that change the status of a task: a user's, of
`internal/api/daemontasks/canceldaemontask`, and a daemon's, of
`internal/api/daemonapi/tasks/updatetask`, from the input that they have read. -/

inductive CancelError where
  | invalidTaskID
  | notFound
  | cannotBeCanceled

namespace CancelError

def status : CancelError → Nat
  | .invalidTaskID => 400
  | .notFound => 404
  | .cannotBeCanceled => 422

def message : CancelError → String
  | .invalidTaskID => "invalid task id"
  | .notFound => "daemon task not found"
  | .cannotBeCanceled => "gdaemon_tasks.cancel_fail_cannot_be_canceled"

end CancelError

variable (store : DaemonTaskRepository)

def canceledTask (taskID : Option Nat) : Except CancelError DaemonTask :=
  match taskID with
  | none => .error .invalidTaskID
  | some taskID =>
    match store.find (findDaemonTaskByIDs [taskID]) (some ⟨1, 0⟩) with
    | [] => .error .notFound
    | task :: _ =>
      if task.status ≠ .waiting then .error .cannotBeCanceled
      else .ok { task with status := .canceled }

def cancelTask (now : Int) (taskID : Option Nat) : Except CancelError DaemonTaskRepository :=
  match canceledTask store taskID with
  | .error error => .error error
  | .ok task => .ok (store.save now task)

inductive UpdateTaskError where
  | daemonSessionNotFound
  | invalidTaskID
  | invalidRequest
  | emptyStatus
  | invalidStatus
  | notFound

namespace UpdateTaskError

def status : UpdateTaskError → Nat
  | .daemonSessionNotFound => 401
  | .invalidTaskID => 400
  | .invalidRequest => 400
  | .emptyStatus => 400
  | .invalidStatus => 400
  | .notFound => 404

def message : UpdateTaskError → String
  | .daemonSessionNotFound => "daemon session not found"
  | .invalidTaskID => "invalid task ID"
  | .invalidRequest => "invalid request"
  | .emptyStatus => "invalid input: empty status"
  | .invalidStatus => "invalid input: invalid status"
  | .notFound => "daemon task not found"

end UpdateTaskError

structure UpdateTaskInput where
  status : Option Int

def UpdateTaskInput.validate (input : UpdateTaskInput) : Except UpdateTaskError DaemonTaskStatus :=
  match input.status with
  | none => .error .emptyStatus
  | some number =>
    match DaemonTaskStatus.ofNum number with
    | none => .error .invalidStatus
    | some status => .ok status

structure UpdateTaskRequest where
  node : Option Node
  taskID : Option Nat
  input : Option UpdateTaskInput

def updatedTask (request : UpdateTaskRequest) : Except UpdateTaskError DaemonTask :=
  match request.node, request.taskID, request.input with
  | none, _, _ => .error .daemonSessionNotFound
  | some _, none, _ => .error .invalidTaskID
  | some _, some _, none => .error .invalidRequest
  | some node, some taskID, some input =>
    match input.validate with
    | .error error => .error error
    | .ok status =>
      match store.find
        { findDaemonTaskByIDs [taskID] with dedicatedServerIDs := [node.id] } none with
      | [] => .error .notFound
      | task :: _ => .ok { task with status := status }

def updateTask (now : Int) (request : UpdateTaskRequest) :
    Except UpdateTaskError DaemonTaskRepository :=
  match updatedTask store request with
  | .error error => .error error
  | .ok task => .ok (store.save now task)

variable {store}

theorem canceledTask_ok (accepted : canceledTask store taskID = .ok task) :
    task.status = .canceled := by
  unfold canceledTask at accepted
  split at accepted
  · cases accepted
  · split at accepted
    · cases accepted
    · split at accepted
      · cases accepted
      · cases accepted
        rfl

end ShadowPanel.Tasks
