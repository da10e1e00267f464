import Mathlib.Logic.Basic
import ShadowPanel.Repositories.Tasks

namespace ShadowPanel.Tasks

open Data Domain Filters Repositories Repositories.DaemonTaskRepository List

/-! The reports of daemons, as in `internal/grpc/handlers/task_handler.go`, on the
stored tasks. -/

structure TaskStatusUpdate where
  taskID : Nat
  status : Int
  deriving DecidableEq

/-- A number that is none of the statuses is read as `waiting`. -/
def protoTaskStatusToDomain : Int → DaemonTaskStatus
  | 1 => .waiting
  | 2 => .working
  | 3 => .error
  | 4 => .success
  | 5 => .canceled
  | _ => .waiting

namespace TaskStatusUpdate

def reported (update : TaskStatusUpdate) : DaemonTaskStatus := protoTaskStatusToDomain update.status

end TaskStatusUpdate

variable (store : DaemonTaskRepository)

def reportedTask (update : TaskStatusUpdate) : Option DaemonTask :=
  match store.find (findDaemonTaskByIDs [update.taskID]) none with
  | [] => none
  | task :: _ => some { task with status := update.reported }

def handleTaskStatusUpdate (now : Int) (update : TaskStatusUpdate) : DaemonTaskRepository :=
  match reportedTask store update with
  | none => store
  | some task => store.save now task

def abandonedTaskMessage : String := "Daemon was restarted before task could complete"

def markTaskAbandoned (now : Int) (task : DaemonTask) : DaemonTaskRepository :=
  (store.appendOutput task.id abandonedTaskMessage).save now
    { task with status := .error, output := none }

def workingTasks (nodeID : Nat) : List DaemonTask :=
  store.find
    { findDaemonTaskByIDs [] with dedicatedServerIDs := [nodeID], statuses := [.working] } none

def reconcileTask (now : Int) (inFlightIDs : List Nat) (marked : DaemonTaskRepository × Nat)
    (task : DaemonTask) : DaemonTaskRepository × Nat :=
  if inFlightIDs.contains task.id then marked
  else (markTaskAbandoned marked.1 now task, marked.2 + 1)

def reconcileWorkingTasks (now : Int) (nodeID : Nat) (inFlightIDs : List Nat) :
    DaemonTaskRepository × Nat :=
  (workingTasks store nodeID).foldl (reconcileTask now inFlightIDs) (store, 0)

variable {store}

theorem reportedTask_eq (update : TaskStatusUpdate) : reportedTask store update =
    (store.get update.taskID).map fun row =>
      { withoutOutput row with status := update.reported } := by
  have found : store.find (findDaemonTaskByIDs [update.taskID]) none =
      (store.get update.taskID).toList.map withoutOutput := by
    rw [find, applyPagination, filter_of_ids rfl]
    cases stored : store.get update.taskID with
    | none => rfl
    | some row =>
      have same : row.id = update.taskID := (mem_of_get stored).2
      simp [Option.filter, isFound, findDaemonTaskByIDs, same]
  unfold reportedTask
  rw [found]
  cases store.get update.taskID <;> rfl

theorem replaced_handleTaskStatusUpdate (found : store.get update.taskID = some task) :
    Replaced task { task with status := update.reported, updatedAt := some now } store.rows
      (handleTaskStatusUpdate store now update).rows := by
  have given : task.id ≠ 0 := id_ne_zero_of_get found
  have stored : store.get task.id = some task := get_of_mem (mem_of_get found).1
  have row : store.written now { withoutOutput task with status := update.reported } =
      { task with status := update.reported, updatedAt := some now } := by
    simp [written, assigned, idFor, withoutOutput, given, stored]
  have handled : handleTaskStatusUpdate store now update =
      store.save now { withoutOutput task with status := update.reported } := by
    rw [handleTaskStatusUpdate, reportedTask_eq, found]
    rfl
  rw [handled, ← row]
  refine replaced_place _ store.ordered (mem_of_get found).1 ?_
  rw [row]

def abandoned (now : Int) (row : DaemonTask) : DaemonTask :=
  { extend abandonedTaskMessage row with status := .error, updatedAt := some now }

theorem get_markTaskAbandoned (stored : store.get row.id = some row) (id : Nat) :
    (markTaskAbandoned store now (withoutOutput row)).get id =
      if id = row.id then some (abandoned now row) else store.get id := by
  have given : row.id ≠ 0 := id_ne_zero_of_get stored
  have appended : (store.appendOutput row.id abandonedTaskMessage).get row.id =
      some (extend abandonedTaskMessage row) := by
    rw [get_appendOutput, stored]
    simp
  have own : (store.appendOutput row.id abandonedTaskMessage).idFor
      { withoutOutput row with status := .error, output := none } = row.id :=
    idFor_of_ne_zero given
  rw [markTaskAbandoned, get_save]
  refine ite_congr (congrArg (id = ·) own) ?_ ?_
  · intro same
    simp [written, assigned, idFor, withoutOutput, given, appended, abandoned, extend]
  · intro other
    rw [get_appendOutput]
    cases found : store.get id with
    | none => rfl
    | some kept =>
      have different : kept.id ≠ row.id := (mem_of_get found).2 ▸ other
      exact congrArg some (if_neg different)

def reconciled (now : Int) (inFlightIDs : List Nat) (row : DaemonTask) : DaemonTask :=
  if row.id ∈ inFlightIDs then row else abandoned now row

theorem get_reconcileTask (stored : marked.1.get row.id = some row) (id : Nat) :
    (reconcileTask now inFlightIDs marked (withoutOutput row)).1.get id =
      if id = row.id then some (reconciled now inFlightIDs row) else marked.1.get id := by
  unfold reconcileTask reconciled
  simp only [contains_iff_mem, show (withoutOutput row).id = row.id from rfl]
  split
  next held =>
    split
    next same => rw [same, stored]
    next => rfl
  next => exact get_markTaskAbandoned stored id

theorem id_reconciled (row : DaemonTask) : (reconciled now inFlightIDs row).id = row.id := by
  unfold reconciled
  split <;> rfl

theorem get_foldl_rewriting {σ : Type} (get : σ → Nat → Option DaemonTask)
    {step : σ → DaemonTask → σ} {rewrite : DaemonTask → DaemonTask}
    (keyed : ∀ state id row, get state id = some row → row.id = id)
    (same : ∀ row, (rewrite row).id = row.id)
    (stepped : ∀ state row, get state row.id = some row →
      ∀ id, get (step state (withoutOutput row)) id = if id =
      row.id then some (rewrite row) else get state id) {rows : List DaemonTask} (state : σ)
    (distinct : (rows.map DaemonTask.id).Nodup) (stored : ∀ row ∈ rows, get state row.id = some row)
    (id : Nat) :
    get ((rows.map withoutOutput).foldl step state) id =
      (get state id).map fun row => if row ∈ rows then rewrite row else row := by
  induction rows generalizing state with
  | nil => simp
  | cons first rest ih =>
    obtain ⟨fresh, distinct⟩ := nodup_cons.mp distinct
    obtain ⟨own, later⟩ := forall_mem_cons.mp stored
    have others : ∀ row ∈ rest, row.id ≠ first.id := by
      intro row member equal
      exact fresh (equal ▸ mem_map_of_mem member)
    rw [map_cons, foldl_cons, ih _ distinct, stepped state first own]
    · split
      next isFirst =>
        subst isFirst
        have gone : rewrite first ∉ rest := fun member => others _ member (same first)
        simp [own, gone]
      next notFirst =>
        cases found : get state id with
        | none => rfl
        | some row =>
          have different : row ≠ first := by
            rintro rfl
            exact notFirst (keyed state id row found).symm
          simp [different]
    · intro row member
      rw [stepped state first own, if_neg (others row member)]
      exact later row member

theorem get_reconcileWorkingTasks (id : Nat) :
    (reconcileWorkingTasks store now nodeID inFlightIDs).1.get id = (store.get id).map fun row =>
        if row.status = .working ∧ row.dedicatedServerID = nodeID ∧ row.id ∉ inFlightIDs then
          abandoned now row else row := by
  refine (get_foldl_rewriting (fun marked id => marked.1.get id)
    (fun _ _ _ found => (mem_of_get found).2) id_reconciled
    (fun _ _ stored => get_reconcileTask stored) (store, 0) ?_ ?_ id).trans ?_
  · exact (filter_sublist.map DaemonTask.id).nodup distinct
  · intro row member
    exact get_of_mem ((mem_filter.mp member).1)
  · cases found : store.get id with
    | none => rfl
    | some row =>
      have stored : row ∈ store.rows := (mem_of_get found).1
      refine congrArg some ?_
      simp only [mem_filter, stored, isFound, findDaemonTaskByIDs, reconciled]
      by_cases held : row.id ∈ inFlightIDs <;> simp [held, and_comm]

end ShadowPanel.Tasks
