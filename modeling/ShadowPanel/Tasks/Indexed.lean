import ShadowPanel.Tasks.Handler

namespace ShadowPanel.Tasks

open Data Domain Repositories Repositories.DaemonTaskRepository

/-! `ReconcileWorkingTasks` over the indexes of
`internal/repositories/inmemory/daemon_tasks.go`, with calls that fail. -/

/-- The tasks with the two indexes that the search for working tasks of a node reads. -/
structure IndexedTasks where
  store : DaemonTaskRepository
  nodeIndex : Nat → Nat → Bool
  statusIndex : DaemonTaskStatus → Nat → Bool

namespace IndexedTasks

def empty : IndexedTasks := ⟨.empty, fun _ _ => false, fun _ _ => false⟩

def removeFromIndexes (tasks : IndexedTasks) (task : DaemonTask) : IndexedTasks :=
  { tasks with
    nodeIndex := fun node id =>
      tasks.nodeIndex node id && !(node == task.dedicatedServerID && id == task.id)
    statusIndex := fun status id =>
      tasks.statusIndex status id && !(status == task.status && id == task.id) }

def addToIndexes (tasks : IndexedTasks) (task : DaemonTask) : IndexedTasks :=
  { tasks with
    nodeIndex := fun node id =>
      tasks.nodeIndex node id || node == task.dedicatedServerID && id == task.id
    statusIndex := fun status id =>
      tasks.statusIndex status id || status == task.status && id == task.id }

/-- Only a task that comes with its identifier is taken out of the indexes first. -/
def save (tasks : IndexedTasks) (now : Int) (task : DaemonTask) : IndexedTasks :=
  let kept :=
    match if task.id = 0 then none else tasks.store.get task.id with
    | some old => tasks.removeFromIndexes old
    | none => tasks
  { kept with store := tasks.store.save now task }.addToIndexes (tasks.store.written now task)

def appendOutput (tasks : IndexedTasks) (id : Nat) (output : String) : IndexedTasks :=
  { tasks with store := tasks.store.appendOutput id output }

def Finds (tasks : IndexedTasks) (nodeID id : Nat) : Bool :=
  tasks.nodeIndex nodeID id && tasks.statusIndex .working id

def workingTasks (tasks : IndexedTasks) (nodeID : Nat) : List DaemonTask :=
  (tasks.store.rows.filter fun row => tasks.Finds nodeID row.id).map withoutOutput

/-- The call of `markTaskAbandoned` that fails, which is only logged. -/
inductive MarkFault where
  | appendOutput
  | save

variable (now : Int) (faults : Nat → Option MarkFault) (inFlightIDs : List Nat)

def reconcileTask (marked : IndexedTasks × Nat) (task : DaemonTask) : IndexedTasks × Nat :=
  if inFlightIDs.contains task.id then marked
  else
    match faults task.id with
    | some .appendOutput => marked
    | some .save => (marked.1.appendOutput task.id abandonedTaskMessage, marked.2)
    | none =>
      ((marked.1.appendOutput task.id abandonedTaskMessage).save now
        { task with status := .error, output := none }, marked.2 + 1)

def reconcileWorkingTasks (tasks : IndexedTasks) (nodeID : Nat) : IndexedTasks × Nat :=
  (tasks.workingTasks nodeID).foldl (reconcileTask now faults inFlightIDs) (tasks, 0)

def left (row : DaemonTask) : DaemonTask :=
  if row.id ∈ inFlightIDs then row
  else
    match faults row.id with
    | some .appendOutput => row
    | some .save => extend abandonedTaskMessage row
    | none => abandoned now row

variable {now faults inFlightIDs}

theorem get_reconcileTask (stored : marked.1.store.get row.id = some row) (id : Nat) :
    (reconcileTask now faults inFlightIDs marked (withoutOutput row)).1.store.get id =
      if id = row.id then some (left now faults inFlightIDs row) else marked.1.store.get id := by
  have same : id = row.id → marked.1.store.get id = some row := fun equal => equal ▸ stored
  simp only [reconcileTask, left, List.contains_iff_mem,
    show (withoutOutput row).id = row.id from rfl]
  split
  next => split <;> simp_all
  next =>
    split
    next => split <;> simp_all
    next =>
      refine (get_appendOutput row.id abandonedTaskMessage).trans ?_
      split
      next equal => simp [same equal]
      next other =>
        cases found : marked.1.store.get id with
        | none => rfl
        | some kept => exact congrArg some (if_neg ((mem_of_get found).2 ▸ other))
    next => exact get_markTaskAbandoned stored id

theorem id_left (row : DaemonTask) : (left now faults inFlightIDs row).id = row.id := by
  unfold left
  split
  next => rfl
  next => split <;> rfl

theorem get_reconcileWorkingTasks (tasks : IndexedTasks) (nodeID id : Nat) :
    (reconcileWorkingTasks now faults inFlightIDs tasks nodeID).1.store.get id =
      (tasks.store.get id).map fun row =>
        if tasks.Finds nodeID row.id then left now faults inFlightIDs row else row := by
  refine (get_foldl_rewriting (fun marked id => marked.1.store.get id)
    (fun _ _ _ found => (mem_of_get found).2) id_left
    (fun _ _ stored => get_reconcileTask stored) (tasks, 0) ?_ ?_ id).trans ?_
  · exact (List.filter_sublist.map DaemonTask.id).nodup distinct
  · intro row member
    exact get_of_mem (List.mem_filter.mp member).1
  · cases found : tasks.store.get id with
    | none => rfl
    | some row => simp [(mem_of_get found).1]

theorem count_foldl_reconcileTask (rows : List DaemonTask) (marked : IndexedTasks × Nat) :
    ((rows.map withoutOutput).foldl (reconcileTask now faults inFlightIDs) marked).2 =
      marked.2 + rows.countP fun row => decide (row.id ∉ inFlightIDs ∧ faults row.id = none) := by
  induction rows generalizing marked with
  | nil => rfl
  | cons row rows ih =>
    rw [List.map_cons, List.foldl_cons, ih, List.countP_cons]
    have counted : (reconcileTask now faults inFlightIDs marked (withoutOutput row)).2 =
        marked.2 + if row.id ∉ inFlightIDs ∧ faults row.id = none then 1 else 0 := by
      simp only [reconcileTask, List.contains_iff_mem,
        show (withoutOutput row).id = row.id from rfl]
      split
      next held => simp [held]
      next => split <;> simp_all
    simp only [decide_eq_true_eq]
    omega

theorem left_eq_self_iff (unheld : row.id ∉ inFlightIDs) :
    left now faults inFlightIDs row = row ↔ faults row.id = some .appendOutput := by
  have changed : ∀ other : DaemonTask,
      other.output = (extend abandonedTaskMessage row).output → other ≠ row := by
    rintro _ longer rfl
    have length := congrArg (fun output => (output.getD "").length) longer
    simp [extend, abandonedTaskMessage] at length
  rw [left, if_neg unheld]
  split
  next met => exact iff_of_true rfl met
  next met => exact iff_of_false (changed _ rfl) (by simp [met])
  next met => exact iff_of_false (changed _ rfl) (by simp [met])

theorem left_eq_abandoned_iff (unheld : row.id ∉ inFlightIDs) (working : row.status = .working) :
    left now faults inFlightIDs row = abandoned now row ↔ faults row.id = none := by
  have changed : ∀ other : DaemonTask, other.status = .working → other ≠ abandoned now row := by
    rintro _ still rfl
    cases still
  rw [left, if_neg unheld]
  split
  next met => exact iff_of_false (changed _ working) (by simp [met])
  next met => exact iff_of_false (changed _ working) (by simp [met])
  next met => exact iff_of_true rfl met

end IndexedTasks

section

variable (now : Int) (faults : Nat → Option IndexedTasks.MarkFault) (tasks : IndexedTasks)
  (nodeID : Nat) (inFlightIDs : List Nat)

def IsAbandoned (row : DaemonTask) : Prop :=
  row.status = .working ∧ row.dedicatedServerID = nodeID ∧ row.id ∉ inFlightIDs

instance (row : DaemonTask) : Decidable (IsAbandoned nodeID inFlightIDs row) :=
  inferInstanceAs (Decidable (_ ∧ _))

/-- The tasks of the node that are working and not in flight become errors, with the message
after their output, the others stay, and the number is that of the former. -/
structure Reconciles (result : IndexedTasks × Nat) : Prop where
  rows : ∀ id, result.1.store.get id = (tasks.store.get id).map fun row =>
    if IsAbandoned nodeID inFlightIDs row then abandoned now row else row
  count : result.2 = tasks.store.rows.countP fun row => decide (IsAbandoned nodeID inFlightIDs row)

/-- The indexes find the rows that they should, and no call fails on these; of the others that
are found the first call fails. -/
def FindsExactly : Prop :=
  ∀ row ∈ tasks.store.rows, row.id ∉ inFlightIDs →
    if IsAbandoned nodeID inFlightIDs row then
      tasks.Finds nodeID row.id = true ∧ faults row.id = none
    else tasks.Finds nodeID row.id = true → faults row.id = some .appendOutput

variable {now faults tasks nodeID inFlightIDs}

theorem left_eq_expected_iff (unheld : row.id ∉ inFlightIDs) :
    ((if tasks.Finds nodeID row.id then IndexedTasks.left now faults inFlightIDs row else row) =
        if IsAbandoned nodeID inFlightIDs row then abandoned now row else row) ↔
      if IsAbandoned nodeID inFlightIDs row then
        tasks.Finds nodeID row.id = true ∧ faults row.id = none
      else tasks.Finds nodeID row.id = true → faults row.id = some .appendOutput := by
  by_cases expected : IsAbandoned nodeID inFlightIDs row
  · have working : row ≠ abandoned now row := by
      intro same
      exact absurd ((congrArg DaemonTask.status same).symm.trans expected.1) nofun
    rw [if_pos expected, if_pos expected]
    cases tasks.Finds nodeID row.id with
    | true => simp [IndexedTasks.left_eq_abandoned_iff unheld expected.1]
    | false => simp [working]
  · rw [if_neg expected, if_neg expected]
    cases tasks.Finds nodeID row.id with
    | true => simp [IndexedTasks.left_eq_self_iff unheld]
    | false => simp

theorem rows_reconcileWorkingTasks_iff :
    (∀ id, (IndexedTasks.reconcileWorkingTasks now faults inFlightIDs tasks nodeID).1.store.get id =
        (tasks.store.get id).map fun row =>
          if IsAbandoned nodeID inFlightIDs row then abandoned now row else row) ↔
      FindsExactly faults tasks nodeID inFlightIDs := by
  simp only [IndexedTasks.get_reconcileWorkingTasks]
  constructor
  · intro same row member unheld
    have own := same row.id
    rw [get_of_mem member] at own
    exact (left_eq_expected_iff unheld).mp (Option.some.inj own)
  · intro exactly id
    cases found : tasks.store.get id with
    | none => rfl
    | some row =>
      refine congrArg some ?_
      by_cases held : row.id ∈ inFlightIDs
      · simp [held, IsAbandoned, IndexedTasks.left]
      · exact (left_eq_expected_iff held).mpr (exactly row (mem_of_get found).1 held)

end

/-- Exactly when the indexes find the right rows and no call fails on them. -/
theorem reconciles_iff (now : Int) (faults : Nat → Option IndexedTasks.MarkFault)
    (tasks : IndexedTasks) (nodeID : Nat) (inFlightIDs : List Nat) :
    Reconciles now tasks nodeID inFlightIDs
        (IndexedTasks.reconcileWorkingTasks now faults inFlightIDs tasks nodeID) ↔
      FindsExactly faults tasks nodeID inFlightIDs := by
  rw [← rows_reconcileWorkingTasks_iff]
  refine ⟨Reconciles.rows, fun rows => ⟨rows, ?_⟩⟩
  have exactly := rows_reconcileWorkingTasks_iff.mp rows
  rw [IndexedTasks.reconcileWorkingTasks, IndexedTasks.workingTasks,
    IndexedTasks.count_foldl_reconcileTask, Nat.zero_add, List.countP_filter]
  refine List.countP_congr ?_
  intro row member
  have own := exactly row member
  simp only [Bool.and_eq_true, decide_eq_true_eq]
  by_cases expected : IsAbandoned nodeID inFlightIDs row
  · rw [if_pos expected] at own
    obtain ⟨found, met⟩ := own expected.2.2
    exact iff_of_true ⟨⟨expected.2.2, met⟩, found⟩ expected
  · rw [if_neg expected] at own
    refine iff_of_false ?_ expected
    rintro ⟨⟨unheld, met⟩, found⟩
    rw [met] at own
    cases own unheld found

def workingTask (id nodeID : Nat) : DaemonTask :=
  ⟨id, none, none, none, nodeID, none, .serverStart, none, none, none, .working⟩

def overwrittenTasks : IndexedTasks :=
  (IndexedTasks.empty.save 10 (workingTask 1 7)).save 20 (workingTask 0 8)

theorem not_reconciles_of_stale_or_fault : ¬Reconciles 30 overwrittenTasks 7 []
      (IndexedTasks.reconcileWorkingTasks 30 (fun _ => none) [] overwrittenTasks 7) ∧
    ¬Reconciles 30 overwrittenTasks 8 []
      (IndexedTasks.reconcileWorkingTasks 30 (fun _ => some .save) [] overwrittenTasks 8) := by
  constructor
  · rintro ⟨_, count⟩
    exact absurd count (by decide)
  · rintro ⟨_, count⟩
    exact absurd count (by decide)

end ShadowPanel.Tasks
