import ShadowPanel.Repositories.Tasks

namespace ShadowPanel.Tasks

open Domain Filters Repositories Repositories.DaemonTaskRepository

/-! `Dispatch` and `FlushPending` of `internal/services/taskdispatcher/dispatcher.go`,
on the stored tasks. -/

variable (store : DaemonTaskRepository)

/-- `sent` is the moment of the second save, when the task could be sent.  The task
is returned as its caller has it afterwards. -/
def dispatch (now : Int) (task : DaemonTask) (sent : Option Int) :
    DaemonTaskRepository × DaemonTask :=
  let stored := store.save now task
  let task := store.assigned now task
  match sent with
  | none => (stored, task)
  | some later => (stored.save later task, stored.assigned later task)

inductive FlushError where
  | sessionNotFound
  | sendPendingTask

def FlushError.message : FlushError → String
  | .sessionNotFound => "session not found"
  | .sendPendingTask => "send pending task"

def pendingTasks (nodeID : Nat) : List DaemonTask :=
  store.find
    { findDaemonTaskByIDs [] with dedicatedServerIDs := [nodeID], statuses := [.waiting] } none

def flushed (task : DaemonTask) : DaemonTask := { task with status := .working }

/-- `sends` are the moments of the saves after the sends that succeed; the send
after them fails. -/
def flushTasks (store : DaemonTaskRepository) :
    List DaemonTask → List Int → DaemonTaskRepository × Option FlushError
  | [], _ => (store, none)
  | _ :: _, [] => (store, some .sendPendingTask)
  | task :: rest, now :: sends => flushTasks (store.save now (flushed task)) rest sends

def flushPending (nodeID : Nat) (connected : Bool) (sends : List Int) :
    DaemonTaskRepository × Option FlushError :=
  if connected then flushTasks store (pendingTasks store nodeID) sends
  else (store, some .sessionNotFound)

variable {store}

theorem waiting_of_mem_pendingTasks (pending : task ∈ pendingTasks store nodeID) :
    ∃ row, store.get task.id = some row ∧ row.status = .waiting := by
  obtain ⟨row, stored, matched, _⟩ := mem_find pending
  simp only [isFound, Bool.and_eq_true] at matched
  exact ⟨row, stored, by simpa using matched.2⟩

end ShadowPanel.Tasks
