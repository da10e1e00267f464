import ShadowPanel.Data.Runs
import ShadowPanel.Tasks.Dispatcher
import ShadowPanel.Tasks.Handler
import ShadowPanel.Tasks.Requests

namespace ShadowPanel.Tasks

open Data Domain Repositories Repositories.DaemonTaskRepository

/-! Whether a task that has ended stays so, whatever is done one after the other. -/

inductive TaskOperation where
  | dispatch (now : Int) (task : DaemonTask) (sent : Option Int)
  | flushPending (nodeID : Nat) (connected : Bool) (sends : List Int)
  | handleTaskStatusUpdate (now : Int) (update : TaskStatusUpdate)
  | reconcileWorkingTasks (now : Int) (nodeID : Nat) (inFlightIDs : List Nat)
  | cancelTask (now : Int) (taskID : Option Nat)
  | updateTask (now : Int) (request : UpdateTaskRequest)

variable (store : DaemonTaskRepository)

def operate : TaskOperation → DaemonTaskRepository
  | .dispatch now task sent => (dispatch store now task sent).1
  | .flushPending nodeID connected sends => (flushPending store nodeID connected sends).1
  | .handleTaskStatusUpdate now update => handleTaskStatusUpdate store now update
  | .reconcileWorkingTasks now nodeID inFlightIDs =>
    (reconcileWorkingTasks store now nodeID inFlightIDs).1
  | .cancelTask now taskID =>
    match cancelTask store now taskID with
    | .error _ => store
    | .ok next => next
  | .updateTask now request =>
    match updateTask store now request with
    | .error _ => store
    | .ok next => next

def ended (id : Nat) : Bool := (store.get id).any fun row => row.status.isTerminal

def Respects (task : DaemonTask) : Prop :=
  ended store (store.idFor task) = true → task.status.isTerminal = true

instance (task : DaemonTask) : Decidable (Respects store task) := by
  unfold Respects
  infer_instance

def Lawful (store : DaemonTaskRepository) : TaskOperation → Prop
  | .dispatch _ task _ => Respects store task
  | .handleTaskStatusUpdate _ update => ∀ task ∈ reportedTask store update, Respects store task
  | .updateTask _ request => ∀ task, updatedTask store request = .ok task → Respects store task
  | .flushPending _ _ _ | .reconcileWorkingTasks _ _ _ | .cancelTask _ _ => True

def KeepsEnded (before after : DaemonTaskRepository) : Prop :=
  ∀ id, ended before id = true → ended after id = true

variable {store} {now : Int} {id : Nat}

@[simp] theorem ended_save_self (task : DaemonTask) :
    ended (store.save now task) (store.idFor task) = task.status.isTerminal := by
  rw [ended, get_save_self]
  rfl

theorem ended_save_of_ne (other : store.idFor task ≠ id) :
    ended (store.save now task) id = ended store id := by
  rw [ended, get_save_of_ne other, ended]

@[simp] theorem ended_appendOutput (other : Nat) (output : String) :
    ended (store.appendOutput other output) id = ended store id := by
  rw [ended, get_appendOutput, Option.any_map]
  congr 1
  funext row
  split <;> rfl

namespace KeepsEnded

theorem refl (store : DaemonTaskRepository) : KeepsEnded store store := by
  intro id before
  exact before

theorem trans (earlier : KeepsEnded first second) (later : KeepsEnded second third) :
    KeepsEnded first third := by
  intro id before
  exact later id (earlier id before)

theorem save (respects : Respects store task) : KeepsEnded store (store.save now task) := by
  intro id before
  by_cases same : store.idFor task = id
  · subst same
    rw [ended_save_self]
    exact respects before
  · rw [ended_save_of_ne same]
    exact before

theorem save_of_isTerminal (terminal : task.status.isTerminal = true) :
    KeepsEnded store (store.save now task) :=
  save fun _ => terminal

theorem dispatch (respects : Respects store task) (sent : Option Int) :
    KeepsEnded store (dispatch store now task sent).1 := by
  have first : KeepsEnded store (store.save now task) := save respects
  cases sent with
  | none => exact first
  | some later =>
    refine first.trans (save ?_)
    intro before
    rw [idFor_of_ne_zero (idFor_ne_zero task)] at before
    exact (ended_save_self task).symm.trans before

theorem flushTasks (sends : List Int)
    (pending : ∀ task ∈ tasks, task.id ≠ 0 ∧ ended store task.id = false) :
    KeepsEnded store (flushTasks store tasks sends).1 := by
  induction tasks generalizing store sends with
  | nil => exact refl store
  | cons task rest ih =>
    cases sends with
    | nil => exact refl store
    | cons now sends =>
      obtain ⟨⟨given, running⟩, later⟩ := List.forall_mem_cons.mp pending
      have own : store.idFor (flushed task) = task.id := idFor_of_ne_zero given
      have first : KeepsEnded store (store.save now (flushed task)) := by
        refine save ?_
        intro before
        rw [own, running] at before
        cases before
      refine first.trans (ih sends ?_)
      intro other member
      refine ⟨(later other member).1, ?_⟩
      by_cases same : task.id = other.id
      · rw [← same, ← own]
        exact ended_save_self _
      · rw [ended_save_of_ne (own ▸ same)]
        exact (later other member).2

theorem flushPending (nodeID : Nat) (connected : Bool) (sends : List Int) :
    KeepsEnded store (flushPending store nodeID connected sends).1 := by
  cases connected with
  | false => exact refl store
  | true =>
    refine flushTasks sends ?_
    intro task pending
    obtain ⟨row, stored, waiting⟩ := waiting_of_mem_pendingTasks pending
    refine ⟨(mem_of_get stored).2 ▸ id_ne_zero_of_get stored, ?_⟩
    rw [ended, stored, Option.any_some, waiting]
    rfl

theorem markTaskAbandoned : KeepsEnded store (markTaskAbandoned store now task) := by
  have appended : KeepsEnded store (store.appendOutput task.id abandonedTaskMessage) := by
    intro id before
    simpa using before
  exact appended.trans (save_of_isTerminal rfl)

theorem reconcileWorkingTasks (nodeID : Nat) (inFlightIDs : List Nat) :
    KeepsEnded store (reconcileWorkingTasks store now nodeID inFlightIDs).1 := by
  have loop (tasks : List DaemonTask) (marked : DaemonTaskRepository × Nat) :
      KeepsEnded marked.1 (tasks.foldl (reconcileTask now inFlightIDs) marked).1 := by
    induction tasks generalizing marked with
    | nil => exact refl marked.1
    | cons task rest ih =>
      refine trans ?_ (ih (reconcileTask now inFlightIDs marked task))
      unfold reconcileTask
      split
      · exact refl marked.1
      · exact markTaskAbandoned
  exact loop (workingTasks store nodeID) (store, 0)

theorem operate (lawful : Lawful store operation) : KeepsEnded store (operate store operation) := by
  cases operation with
  | dispatch now task sent => exact dispatch lawful sent
  | flushPending nodeID connected sends => exact flushPending nodeID connected sends
  | reconcileWorkingTasks now nodeID inFlightIDs => exact reconcileWorkingTasks nodeID inFlightIDs
  | handleTaskStatusUpdate now update =>
    simp only [Tasks.operate, handleTaskStatusUpdate]
    cases found : reportedTask store update with
    | none => exact refl store
    | some task => exact save (lawful task found)
  | cancelTask now taskID =>
    simp only [Tasks.operate, cancelTask]
    cases accepted : canceledTask store taskID with
    | error error => exact refl store
    | ok task => exact save_of_isTerminal (canceledTask_ok accepted ▸ rfl)
  | updateTask now request =>
    simp only [Tasks.operate, updateTask]
    cases accepted : updatedTask store request with
    | error error => exact refl store
    | ok task => exact save (lawful task accepted)

end KeepsEnded

def NoneRevived (before after : DaemonTaskRepository) : Prop :=
  ∀ id row, ended before id = true → after.get id = some row →
    row.status ≠ .waiting ∧ row.status ≠ .working

theorem KeepsEnded.noneRevived (keeps : KeepsEnded before after) : NoneRevived before after := by
  intro id row wasEnded stored
  rw [← DaemonTaskStatus.isTerminal_iff]
  have isEnded := keeps id wasEnded
  rwa [ended, stored] at isEnded

theorem NoneRevived.respects (none : NoneRevived store after)
    (stored : after.get (store.idFor task) = some row) (same : row.status = task.status) :
    Respects store task := by
  intro wasEnded
  rw [← same, DaemonTaskStatus.isTerminal_iff]
  exact none _ row wasEnded stored

theorem get_dispatch (sent : Option Int) :
    ∃ row, (dispatch store now task sent).1.get (store.idFor task) = some row ∧
      row.status = task.status := by
  cases sent with
  | none => exact ⟨_, get_save_self, rfl⟩
  | some later =>
    have own : (store.save now task).idFor (store.assigned now task) = store.idFor task :=
      idFor_of_ne_zero (idFor_ne_zero task)
    refine ⟨(store.save now task).written later (store.assigned now task), ?_, rfl⟩
    rw [← own]
    exact get_save_self

theorem NoneRevived.lawful (none : NoneRevived store (operate store operation)) :
    Lawful store operation := by
  cases operation with
  | flushPending | reconcileWorkingTasks | cancelTask => trivial
  | dispatch now task sent =>
    obtain ⟨row, stored, same⟩ := get_dispatch sent
    exact none.respects stored same
  | handleTaskStatusUpdate now update =>
    intro task found
    rw [Option.mem_def] at found
    simp only [operate, handleTaskStatusUpdate, found] at none
    exact none.respects get_save_self rfl
  | updateTask now request =>
    intro task accepted
    simp only [operate, updateTask, accepted] at none
    exact none.respects get_save_self rfl

/-- In no run does an ended task come to be waiting or working later, exactly when
every operation of the run respects the tasks that have ended. -/
theorem ended_not_revived_iff (store : DaemonTaskRepository) (operations : List TaskOperation) :
    (∀ first middle rest, operations = first ++ middle ++ rest →
        NoneRevived (run operate store first) (run operate store (first ++ middle))) ↔
      Along operate Lawful store operations := by
  constructor
  · intro always
    apply along_of_each
    intro first operation rest split
    apply NoneRevived.lawful
    have next := always first [operation] rest (by simpa using split)
    rwa [run_append] at next
  · intro along first middle rest split
    subst split
    have before := (along_append.mp along).1
    exact (before.between KeepsEnded.refl KeepsEnded.trans
      fun _ _ lawful => KeepsEnded.operate lawful).noneRevived

def revival : List TaskOperation :=
  [.dispatch 0 ⟨0, none, none, none, 7, none, .cmdExec, none, none, none, .waiting⟩ none,
    .cancelTask 1 (some 1), .handleTaskStatusUpdate 2 ⟨1, 0⟩, .flushPending 7 true [3]]

theorem canceled_task_revived : ended (run operate empty (revival.take 2)) 1 = true ∧
    ((run operate empty (revival.take 3)).get 1).map DaemonTask.status = some .waiting ∧
    ((run operate empty revival).get 1).map DaemonTask.status = some .working := by
  decide

end ShadowPanel.Tasks
