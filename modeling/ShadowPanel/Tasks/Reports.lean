import ShadowPanel.Data.Interleaving
import ShadowPanel.Tasks.Dispatcher
import ShadowPanel.Tasks.Handler

namespace ShadowPanel.Tasks

open Data Domain Repositories Repositories.DaemonTaskRepository Pool

/-! `Dispatch`, `FlushPending` and the handlers of reports side by side, one call of
the repository in each step. -/

structure Board where
  store : DaemonTaskRepository
  reports : List TaskStatusUpdate

/-- The moment of a step, and whether the send before it succeeds; for the first
step of a flush, whether the node has a session. -/
structure TaskMoment where
  now : Int
  sent : Bool

/-- Where a call is: each constructor names the next call of the repository. -/
inductive TaskCall where
  | saveNew (task : DaemonTask)
  | saveSent (task : DaemonTask)
  | findPending (nodeID : Nat)
  | saveFlushed (tasks : List DaemonTask)
  | findReported (update : TaskStatusUpdate)
  | saveReported (task : DaemonTask)
  | finished
  deriving DecidableEq

namespace TaskCall

def isStart : TaskCall → Bool
  | .saveNew _ | .findPending _ | .findReported _ => true
  | _ => false

def saving (moment : TaskMoment) : TaskCall → Option DaemonTask
  | .saveNew task => some task
  | .saveSent task => if moment.sent then some task else none
  | .saveFlushed (task :: _) => if moment.sent then some (flushed task) else none
  | .saveReported task => some task
  | _ => none

def taking : TaskCall → Option TaskStatusUpdate
  | .findReported update => some update
  | _ => none

def next (moment : TaskMoment) (store : DaemonTaskRepository) : TaskCall → TaskCall
  | .saveNew task => .saveSent (store.assigned moment.now task)
  | .saveSent _ => .finished
  | .findPending nodeID =>
    if moment.sent then .saveFlushed (pendingTasks store nodeID) else .finished
  | .saveFlushed [] => .finished
  | .saveFlushed (_ :: rest) => if moment.sent then .saveFlushed rest else .finished
  | .findReported update =>
    match reportedTask store update with
    | none => .finished
    | some task => .saveReported task
  | .saveReported _ => .finished
  | .finished => .finished

def act (moment : TaskMoment) (board : Board) (call : TaskCall) : Board × TaskCall :=
  ({ store := (call.saving moment).elim board.store (board.store.save moment.now)
     reports := call.taking.elim board.reports (· :: board.reports) },
    call.next moment board.store)

def handles (id : Nat) : TaskCall → Bool
  | .saveReported task => task.id == id
  | _ => false

end TaskCall

namespace Board

variable (board : Board) (id : Nat)

def lastReported : Option DaemonTaskStatus :=
  (board.reports.find? fun update => update.taskID == id).map TaskStatusUpdate.reported

def storedStatus : Option DaemonTaskStatus := (board.store.get id).map DaemonTask.status

/-- Every handler has the last report of its task in hand, and what is stored is the
last report unless a handler is about to save it. -/
structure Settling (calls : List TaskCall) : Prop where
  stored : ∀ task, .saveReported task ∈ calls → (board.store.get task.id).isSome = true
  latest : ∀ task, .saveReported task ∈ calls → task.id = id →
    board.lastReported id = some task.status
  kept : ∀ status, board.lastReported id = some status →
    board.storedStatus id = some status ∨ ∃ call ∈ calls, call.handles id = true

end Board

/-- When a call may take its step, as far as the task is concerned: a report is
received while the task is stored and no other report of it is being handled, and
`Dispatch` and `FlushPending` save the task before its first report is received or
while one is being handled. -/
def Timely (id : Nat) (moment : TaskMoment) (board : Board) (others : List TaskCall) :
    TaskCall → Prop
  | .findReported update => update.taskID = id →
    (board.store.get id).isSome = true ∧ ∀ other ∈ others, other.handles id = false
  | .saveReported _ => True
  | call => ∀ task ∈ call.saving moment, board.store.idFor task = id →
    board.lastReported id = none ∨ ∃ other ∈ others, other.handles id = true

instance (id : Nat) (moment : TaskMoment) (board : Board) (others : List TaskCall)
    (call : TaskCall) : Decidable (Timely id moment board others call) := by
  unfold Timely
  split <;> infer_instance

def sideBySide (store : DaemonTaskRepository) (calls : List TaskCall)
    (events : List (Nat × TaskMoment)) : Pool Board TaskCall :=
  run (Pool.step TaskCall.act) ⟨⟨store, []⟩, calls⟩ events

variable {board : Board} {call : TaskCall} {moment : TaskMoment} {id : Nat}
variable {task : DaemonTask} {status : DaemonTaskStatus}

theorem isSome_get_save {store : DaemonTaskRepository} (now : Int)
    (stored : (store.get id).isSome = true) : ((store.save now task).get id).isSome = true := by
  by_cases same : store.idFor task = id
  · subst same
    rw [get_save_self]
    rfl
  · rw [get_save_of_ne same]
    exact stored

theorem store_act (moment : TaskMoment) (board : Board) (call : TaskCall) :
    (call.act moment board).1.store =
      (call.saving moment).elim board.store (board.store.save moment.now) :=
  rfl

theorem isSome_get_act (stored : (board.store.get id).isSome = true) :
    ((call.act moment board).1.store.get id).isSome = true := by
  rw [store_act]
  cases call.saving moment with
  | none => exact stored
  | some task => exact isSome_get_save moment.now stored

theorem TaskCall.eq_of_next (moment : TaskMoment)
    (next : .saveReported task = TaskCall.next moment board.store (.findReported update)) :
    task.id = update.taskID ∧ task.status = update.reported ∧
      (board.store.get task.id).isSome = true := by
  rw [TaskCall.next, reportedTask_eq] at next
  cases stored : board.store.get update.taskID with
  | none =>
    rw [stored] at next
    cases next
  | some row =>
    rw [stored] at next
    cases next
    have own : row.id = update.taskID := (mem_of_get stored).2
    exact ⟨own, rfl, by simp [withoutOutput, own, stored]⟩

namespace Board

variable {before after : List TaskCall}

theorem lastReported_act_of_ne (apart : ∀ update ∈ call.taking, update.taskID ≠ id) :
    (call.act moment board).1.lastReported id = board.lastReported id := by
  unfold TaskCall.act lastReported
  cases takes : call.taking with
  | none => rfl
  | some update =>
    have other : ¬(update.taskID == id) = true := by simpa using apart update takes
    exact congrArg _ (List.find?_cons_of_neg other)

theorem storedStatus_act_of_ne (apart : ∀ task ∈ call.saving moment, board.store.idFor task ≠ id) :
    (call.act moment board).1.storedStatus id = board.storedStatus id := by
  unfold storedStatus
  rw [store_act]
  cases saves : call.saving moment with
  | none => rfl
  | some task => exact congrArg _ (get_save_of_ne (apart task saves))

theorem Settling.save (settling : board.Settling id (before ++ .saveReported task :: after))
    (now : Int) :
    Settling { board with store := board.store.save now task } id
      (before ++ .finished :: after) := by
  obtain ⟨row, isRow⟩ := Option.isSome_iff_exists.mp (settling.stored task (by simp))
  have target : board.store.idFor task = task.id := by
    apply idFor_of_ne_zero
    rw [← (mem_of_get isRow).2]
    exact id_ne_zero_of_get isRow
  have others {call : TaskCall} (member : call ∈ before ++ .finished :: after)
      (unfinished : call ≠ .finished) : call ∈ before ++ .saveReported task :: after := by
    simp only [List.mem_append, List.mem_cons, unfinished, false_or] at member ⊢
    exact member.imp_right .inr
  refine ⟨fun each member => ?_, fun each member => ?_, fun status reported => ?_⟩
  · exact isSome_get_save now (settling.stored each (others member (by simp)))
  · exact settling.latest each (others member (by simp))
  · by_cases own : task.id = id
    · have latest := settling.latest task (by simp) own
      have same : status = task.status := Option.some.inj (reported.symm.trans latest)
      left
      rw [same, ← own, ← target]
      exact congrArg _ get_save_self
    · have unwritten : (board.store.save now task).get id = board.store.get id :=
        get_save_of_ne (target.trans_ne own)
      rcases settling.kept status reported with same | awaiting
      · exact .inl ((congrArg _ unwritten).trans same)
      · rcases exists_calls.mp awaiting with other | self
        · exact .inr (exists_calls.mpr (.inl other))
        · exact absurd (beq_iff_eq.mp self) own

theorem Settling.find (settling : board.Settling id (before ++ .findReported update :: after))
    (timely : Timely id moment board (before ++ after) (.findReported update)) :
    (TaskCall.act moment board (.findReported update)).1.Settling id
      (before ++ (TaskCall.act moment board (.findReported update)).2 :: after) := by
  have moved (task : DaemonTask) (found : .saveReported task ∈
      before ++ (TaskCall.act moment board (.findReported update)).2 :: after) :
      .saveReported task ∈ before ++ after ∨ task.id = update.taskID ∧
        task.status = update.reported ∧ (board.store.get task.id).isSome = true := by
    rcases mem_calls.mp found with other | own
    · exact .inl other
    · exact .inr (TaskCall.eq_of_next moment own)
  refine ⟨fun task found => ?_, fun task found own => ?_, fun status reported => ?_⟩
  · rcases moved task found with other | ⟨_, _, stored⟩
    · exact settling.stored task (mem_calls.mpr (.inl other))
    · exact stored
  · rcases moved task found with other | ⟨same, last, _⟩
    · by_cases mine : update.taskID = id
      · have idle := (timely mine).2 _ other
        simp [TaskCall.handles, own] at idle
      · rw [lastReported_act_of_ne (by simpa [TaskCall.taking] using mine)]
        exact settling.latest task (mem_calls.mpr (.inl other)) own
    · simp [TaskCall.act, TaskCall.taking, lastReported, last, ← same, own]
  · by_cases mine : update.taskID = id
    · obtain ⟨row, isRow⟩ := Option.isSome_iff_exists.mp (timely mine).1
      refine .inr (exists_calls.mpr (.inr ?_))
      have own : row.id = id := (mem_of_get isRow).2
      simp [TaskCall.act, TaskCall.next, reportedTask_eq, mine, isRow, TaskCall.handles,
        withoutOutput, own]
    · rw [lastReported_act_of_ne (by simpa [TaskCall.taking] using mine)] at reported
      rcases settling.kept status reported with same | awaiting
      · exact .inl same
      · rcases exists_calls.mp awaiting with other | self
        · exact .inr (exists_calls.mpr (.inl other))
        · cases self

theorem Settling.panel (settling : board.Settling id (before ++ call :: after))
    (takes : call.taking = none)
    (silent : ∀ task, .saveReported task ≠ call.next moment board.store)
    (idle : call.handles id = false)
    (timely : ∀ task ∈ call.saving moment, board.store.idFor task = id →
      board.lastReported id = none ∨ ∃ other ∈ before ++ after, other.handles id = true) :
    (call.act moment board).1.Settling id (before ++ (call.act moment board).2 :: after) := by
  have others (task : DaemonTask)
      (found : .saveReported task ∈ before ++ (call.act moment board).2 :: after) :
      .saveReported task ∈ before ++ call :: after :=
    mem_calls.mpr ((mem_calls.mp found).imp_right fun own => absurd own (silent task))
  have unread : (call.act moment board).1.lastReported id = board.lastReported id :=
    lastReported_act_of_ne (by simp [takes])
  refine ⟨fun task found => ?_, fun task found own => ?_, fun status reported => ?_⟩
  · exact isSome_get_act (settling.stored task (others task found))
  · exact unread.trans (settling.latest task (others task found) own)
  · rw [unread] at reported
    have handled (other : ∃ other ∈ before ++ after, other.handles id = true) :
        ∃ each ∈ before ++ (call.act moment board).2 :: after, each.handles id = true :=
      exists_calls.mpr (.inl other)
    by_cases saved : ∃ task ∈ call.saving moment, board.store.idFor task = id
    · obtain ⟨task, saves, own⟩ := saved
      rcases timely task saves own with unreported | other
      · cases reported.symm.trans unreported
      · exact .inr (handled other)
    · rw [storedStatus_act_of_ne fun task saves own => saved ⟨task, saves, own⟩]
      refine (settling.kept status reported).imp_right fun awaiting => handled ?_
      exact (exists_calls.mp awaiting).resolve_right (by simp [idle])

theorem Settling.act (settling : board.Settling id (before ++ call :: after))
    (timely : Timely id moment board (before ++ after) call) :
    (call.act moment board).1.Settling id (before ++ (call.act moment board).2 :: after) := by
  cases call with
  | findReported update => exact settling.find timely
  | saveReported task => exact settling.save moment.now
  | saveFlushed tasks =>
    refine settling.panel rfl ?_ rfl timely
    cases tasks with
    | nil => simp [TaskCall.next]
    | cons first rest => cases sent : moment.sent <;> simp [TaskCall.next, sent]
  | findPending nodeID =>
    refine settling.panel rfl ?_ rfl timely
    cases sent : moment.sent <;> simp [TaskCall.next, sent]
  | saveNew task | saveSent task | finished =>
    exact settling.panel rfl (by simp [TaskCall.next]) rfl timely

end Board

variable {store : DaemonTaskRepository} {calls : List TaskCall}

theorem settling_of_isStart (starting : ∀ call ∈ calls, call.isStart = true) :
    Board.Settling ⟨store, []⟩ id calls := by
  refine ⟨fun task member => ?_, fun task member => ?_, fun status reported => nomatch reported⟩ <;>
    cases starting _ member

/-- Once all calls have finished, what is stored of a task is the last status that
the daemon reported of it. -/
theorem lastReported_stored (starting : ∀ call ∈ calls, call.isStart = true)
    {events : List (Nat × TaskMoment)}
    (timely : Along (Pool.step TaskCall.act) (Pool.Admits (Timely id)) ⟨⟨store, []⟩, calls⟩ events)
    (finished : ∀ call ∈ (sideBySide store calls events).calls, call = .finished)
    (reported : (sideBySide store calls events).shared.lastReported id = some status) :
    (sideBySide store calls events).shared.storedStatus id = some status := by
  have settling := Pool.invariant (fun pool => pool.shared.Settling id pool.calls)
    timely (fun _ _ _ _ _ admitted settling => settling.act admitted)
    (settling_of_isStart starting)
  rcases settling.kept status reported with same | ⟨call, member, handles⟩
  · exact same
  · rw [finished call member] at handles
    cases handles

def newTask : DaemonTask := ⟨0, none, none, none, 7, none, .cmdExec, none, none, none, .waiting⟩

theorem lastReported_stored_afterDispatch :
    (sideBySide empty [.saveNew newTask, .findReported ⟨1, 4⟩]
      [(0, ⟨0, true⟩), (0, ⟨1, true⟩), (1, ⟨2, true⟩), (1, ⟨3, true⟩)]).shared.storedStatus 1 =
      some .success :=
  lastReported_stored (by decide) (by decide) (by decide) (by decide)

def dispatchRace : Pool Board TaskCall :=
  sideBySide empty [.saveNew newTask, .findReported ⟨1, 4⟩]
    [(0, ⟨0, true⟩), (1, ⟨1, true⟩), (1, ⟨2, true⟩), (0, ⟨3, true⟩)]

def flushRace : Pool Board TaskCall :=
  sideBySide (empty.save 0 newTask) [.findPending 7, .findReported ⟨1, 4⟩]
    [(0, ⟨1, true⟩), (1, ⟨2, true⟩), (1, ⟨3, true⟩), (0, ⟨4, true⟩), (0, ⟨5, true⟩)]

theorem report_overwritten : ((∀ call ∈ dispatchRace.calls, call = .finished) ∧
      dispatchRace.shared.lastReported 1 = some .success ∧
      dispatchRace.shared.storedStatus 1 = some .waiting) ∧
    (∀ call ∈ flushRace.calls, call = .finished) ∧
      flushRace.shared.lastReported 1 = some .success ∧
      flushRace.shared.storedStatus 1 = some .working := by
  decide

end ShadowPanel.Tasks
