namespace ShadowPanel.Domain

/-! The daemon tasks of `internal/domain/gdaemon_task.go`.  Times are seconds, and
a zero time counts as no time. -/

inductive DaemonTaskStatus where
  | waiting
  | working
  | error
  | success
  | canceled
  deriving DecidableEq

namespace DaemonTaskStatus

def all : List DaemonTaskStatus := [.waiting, .working, .error, .success, .canceled]

def num : DaemonTaskStatus → Int
  | .waiting => 1
  | .working => 2
  | .error => 3
  | .success => 4
  | .canceled => 5

def ofNum (number : Int) : Option DaemonTaskStatus := all.find? fun status => status.num == number

/-- `isTerminalStatus` of `internal/grpc/handlers/task_handler.go`. -/
def isTerminal (status : DaemonTaskStatus) : Bool :=
  status == .success || status == .error || status == .canceled

theorem isTerminal_iff {status : DaemonTaskStatus} :
    status.isTerminal = true ↔ status ≠ .waiting ∧ status ≠ .working := by
  cases status <;> decide

end DaemonTaskStatus

inductive DaemonTaskType where
  | serverStart
  | serverStop
  | serverRestart
  | serverUpdate
  | serverInstall
  | serverDelete
  | serverMove
  | cmdExec
  deriving DecidableEq

structure DaemonTask where
  id : Nat
  runAftID : Option Nat
  createdAt : Option Int
  updatedAt : Option Int
  dedicatedServerID : Nat
  serverID : Option Nat
  task : DaemonTaskType
  data : Option String
  cmd : Option String
  output : Option String
  status : DaemonTaskStatus
  deriving DecidableEq

end ShadowPanel.Domain
