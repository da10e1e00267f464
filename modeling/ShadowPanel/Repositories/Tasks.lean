import ShadowPanel.Data.Keyed
import ShadowPanel.Filters

namespace ShadowPanel.Repositories

open Data Domain Filters

/-! The store of daemon tasks, as in `internal/repositories/inmemory/daemon_tasks.go`. -/

/-- The rows are kept in the order of their identifiers, so that no two have the
same one; zero is the identifier of a task that has not been stored. -/
structure DaemonTaskRepository where
  rows : List DaemonTask
  nextID : Nat
  ordered : rows.Pairwise fun earlier later => earlier.id < later.id
  numbered : ∀ row ∈ rows, row.id ≠ 0

namespace DaemonTaskRepository

def empty : DaemonTaskRepository where
  rows := []
  nextID := 0
  ordered := .nil
  numbered := by simp

variable (store : DaemonTaskRepository)

def get (id : Nat) : Option DaemonTask := store.rows.find? fun row => row.id == id

section

variable (filter : FindDaemonTask)

def isFound (row : DaemonTask) : Bool :=
  (filter.ids.isEmpty || filter.ids.contains row.id) &&
    (filter.dedicatedServerIDs.isEmpty ||
      filter.dedicatedServerIDs.contains row.dedicatedServerID) &&
    (filter.serverIDs.isEmpty || row.serverID.isSome && filter.serverIDs.contains row.serverID) &&
    (filter.tasks.isEmpty || filter.tasks.contains row.task) &&
    (filter.statuses.isEmpty || filter.statuses.contains row.status)

def withoutOutput (row : DaemonTask) : DaemonTask := { row with output := none }

def find (pagination : Option Pagination) : List DaemonTask :=
  applyPagination pagination ((store.rows.filter (isFound filter)).map withoutOutput)

def findWithOutput (pagination : Option Pagination) : List DaemonTask :=
  applyPagination pagination (store.rows.filter (isFound filter))

/-- `Exists`: every identifier that is asked for, or any task when none is. -/
def existsBy : Bool :=
  if filter.ids.isEmpty then store.rows.any (isFound filter)
  else (store.rows.filter (isFound filter)).length == filter.ids.length

end

def idFor (task : DaemonTask) : Nat := if task.id = 0 then store.nextID + 1 else task.id

def assigned (now : Int) (task : DaemonTask) : DaemonTask :=
  { task with
    id := store.idFor task
    createdAt := if task.id = 0 && task.createdAt.isNone then some now else task.createdAt
    updatedAt := some now }

/-- The row that `Save` writes: a stored output stays when the task comes without one. -/
def written (now : Int) (task : DaemonTask) : DaemonTask :=
  { store.assigned now task with
    output :=
      if task.id = 0 then task.output
      else task.output.or ((store.get task.id).bind DaemonTask.output) }

variable {store}

theorem idFor_ne_zero (task : DaemonTask) : store.idFor task ≠ 0 := by
  unfold idFor
  split
  · exact Nat.succ_ne_zero _
  next given => exact given

variable (store)

def save (now : Int) (task : DaemonTask) : DaemonTaskRepository where
  rows := place DaemonTask.id (store.written now task) store.rows
  nextID := if task.id = 0 then store.nextID + 1 else store.nextID
  ordered := pairwise_place store.ordered
  numbered := forall_mem_place (idFor_ne_zero task) store.numbered

def extend (output : String) (row : DaemonTask) : DaemonTask :=
  { row with output := some (row.output.getD "" ++ output) }

def appendOutput (id : Nat) (output : String) : DaemonTaskRepository where
  rows := store.rows.map fun row => if row.id = id then extend output row else row
  nextID := store.nextID
  ordered := by
    refine pairwise_map (fun row => ?_) store.ordered
    split <;> rfl
  numbered := by
    refine List.forall_mem_map.mpr fun row member => ?_
    split <;> exact store.numbered row member

variable {store} {id : Nat}

theorem idFor_of_ne_zero (given : task.id ≠ 0) : store.idFor task = task.id := if_neg given

theorem distinct : (store.rows.map DaemonTask.id).Nodup := nodup_of_ordered store.ordered

theorem get_of_mem (member : task ∈ store.rows) : store.get task.id = some task :=
  find?_key_of_mem distinct member

theorem mem_of_get (found : store.get id = some task) : task ∈ store.rows ∧ task.id = id :=
  ⟨List.mem_of_find?_eq_some found, by simpa using List.find?_some found⟩

theorem id_ne_zero_of_get (found : store.get id = some task) : task.id ≠ 0 :=
  store.numbered task (mem_of_get found).1

@[simp] theorem get_save_self : (store.save now task).get (store.idFor task) =
    some (store.written now task) :=
  find?_place_self DaemonTask.id (store.written now task) store.rows

theorem get_save_of_ne (other : store.idFor task ≠ id) :
    (store.save now task).get id = store.get id :=
  find?_place_of_ne DaemonTask.id other store.rows

theorem get_save : (store.save now task).get id =
    if id = store.idFor task then some (store.written now task) else store.get id := by
  split
  next same => rw [same, get_save_self]
  next other => exact get_save_of_ne (Ne.symm other)

theorem get_appendOutput (other : Nat) (output : String) :
    (store.appendOutput other output).get id =
      (store.get id).map fun row => if row.id = other then extend output row else row := by
  unfold get appendOutput
  rw [List.find?_map]
  congr 2
  funext row
  simp only [Function.comp]
  split <;> rfl

theorem replaced_appendOutput (output : String) (found : store.get id = some task) :
    Replaced task (extend output task) store.rows (store.appendOutput id output).rows := by
  obtain ⟨member, rfl⟩ := mem_of_get found
  exact replaced_map distinct member

theorem rows_appendOutput_of_none (output : String) (missing : store.get id = none) :
    (store.appendOutput id output).rows = store.rows := by
  refine (List.map_congr_left ?_).trans (List.map_id store.rows)
  intro row member
  have different : row.id ≠ id := by
    simpa using List.find?_eq_none.mp missing row member
  exact if_neg different

theorem mem_find (member : found ∈ store.find filter none) :
    ∃ row, store.get found.id = some row ∧ isFound filter row = true ∧
      withoutOutput row = found := by
  obtain ⟨row, selected, rfl⟩ := List.mem_map.mp member
  obtain ⟨stored, matched⟩ := List.mem_filter.mp selected
  exact ⟨row, get_of_mem stored, matched, rfl⟩

theorem filter_of_ids (single : filter.ids = [id]) :
    store.rows.filter (isFound filter) = ((store.get id).filter (isFound filter)).toList := by
  refine filter_of_key distinct ?_
  intro row matched
  simp only [isFound, single, Bool.and_eq_true] at matched
  simpa using matched.1.1.1.1

end DaemonTaskRepository

end ShadowPanel.Repositories
