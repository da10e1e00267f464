import ShadowPanel.Servers.Control

namespace ShadowPanel.Servers

open Data Domain Filters Repositories Repositories.DaemonTaskRepository Program List

/-! What a reinstallation that fails leaves behind, wherever it fails. -/

inductive CallSite where
  | event (event : PluginEventType)
  | findSetting (name : String)
  | saveSetting
  | existsTask (tasks : List DaemonTaskType)
  | now (task : DaemonTaskType)
  | saveTask (task : DaemonTaskType)
  | findServer (task : DaemonTaskType)
  | sendConfigUpdate (task : DaemonTaskType)
  | sendTask (task : DaemonTaskType)
  | saveSent (task : DaemonTaskType)
  | beginTransaction
  | commit
  | rollback

def ControlOp.site : ControlOp → CallSite
  | .dispatchServerEvent event _ => .event event
  | .findSetting _ name => .findSetting name
  | .saveSetting _ => .saveSetting
  | .existsTask filter => .existsTask filter.tasks
  | .now task => .now task
  | .saveTask task => if task.id = 0 then .saveTask task.task else .saveSent task.task
  | .findServer task => .findServer task.task
  | .sendConfigUpdate task => .sendConfigUpdate task.task
  | .sendTask task => .sendTask task.task
  | .beginTransaction => .beginTransaction
  | .commit => .commit
  | .rollback => .rollback

def request {α : Type} (inputs : CallSite → ControlInput) (action : Control α)
    (state : ControlState) : ControlState × Except ControlError α :=
  action.eval (fun state op => handle .database (inputs op.site) state op) state

section

variable {α β : Type} {inputs : CallSite → ControlInput} {after : ControlState}
  {rest : α → Control β}

theorem request_bind_ok (first : request inputs action state = (after, .ok value)) :
    request inputs (action >>= rest) state = request inputs (rest value) after :=
  eval_bind_ok first

theorem request_bind_error (first : request inputs action state = (after, .error error)) :
    request inputs (action >>= rest) state = (after, .error error) :=
  eval_bind_error first

theorem request_withMessage_ok {text : String}
    (inner : request inputs action state = (after, .ok value)) :
    request inputs (withMessage text action) state = (after, .ok value) :=
  eval_tryCatch_ok inner

theorem request_withMessage_error {text : String}
    (inner : request inputs action state = (after, .error error)) :
    request inputs (withMessage text action) state = (after, .error (.withMessage text error)) :=
  eval_tryCatch_error inner

theorem request_perform_bind (op : ControlOp) {next : op.Answer → Control β} {answer : op.Answer}
    (answered : handle .database (inputs op.site) state op = (after, answer)) :
    request inputs (perform op >>= next) state = request inputs (next answer) after := by
  have evaluated : request inputs (perform op) state = (after, .ok answer) := by
    rw [Prod.mk.injEq] at answered
    rw [← answered.1, ← answered.2]
    rfl
  exact eval_bind_ok evaluated

theorem request_workingTasksExist_error (server : Server) {types : List DaemonTaskType}
    {text : String} (met : (inputs (.existsTask types)).fault = some text) :
    request inputs (workingTasksExist server types) state =
      (state, .error (.withMessage "failed to check daemon task existence" (.other text))) := by
  refine request_withMessage_error ?_
  exact request_perform_bind (.existsTask (activeTasks server types)) (attempt_of_fault met)

theorem request_workingTasksExist_ok (state : ControlState) (server : Server)
    {types : List DaemonTaskType} (met : (inputs (.existsTask types)).fault = none) :
    request inputs (workingTasksExist server types) state =
      (state, .ok (state.tasks.existsBy (activeTasks server types))) := by
  refine request_withMessage_ok ?_
  exact request_perform_bind (.existsTask (activeTasks server types)) (attempt_of_none met)

end

def taskMessages (state : ControlState) : List DaemonTask :=
  state.sent.filterMap fun
    | .task task => some task
    | .serverConfigUpdate _ => none

structure Added (types : List DaemonTaskType) (delivered : Bool) (before after : ControlState) :
    Prop where
  saved : after.saved = before.saved
  rows : ∀ row ∈ after.tasks.rows, row ∈ before.tasks.rows ∨ row.task ∈ types
  messages : ∃ added, taskMessages after = taskMessages before ++ added ∧
    (added = [] ↔ delivered = false)

namespace Added

variable {types more : List DaemonTaskType} {after : ControlState}

theorem refl (state : ControlState) : Added [] false state state :=
  ⟨rfl, fun _ member => .inl member, [], (append_nil _).symm, by simp⟩

theorem trans (earlier : Added types first before between)
    (later : Added more second between after) :
    Added (types ++ more) (first || second) before after := by
  obtain ⟨added, grown, silent⟩ := earlier.messages
  obtain ⟨addedLater, grownLater, silentLater⟩ := later.messages
  refine ⟨later.saved.trans earlier.saved, ?_, added ++ addedLater, ?_, ?_⟩
  · intro row member
    rw [mem_append]
    cases later.rows row member with
    | inl old => exact (earlier.rows row old).imp_right .inl
    | inr new => exact .inr (.inr new)
  · rw [grownLater, grown, append_assoc]
  · rw [append_eq_nil_iff, silent, silentLater, Bool.or_eq_false_iff]

theorem mono (added : Added types first before after) (within : types ⊆ more) :
    Added more first before after :=
  ⟨added.saved, fun row member => (added.rows row member).imp_right (within ·), added.messages⟩

theorem save (inputs : CallSite → ControlInput) (state : ControlState) (task : DaemonTask) :
    Added [task.task] false state { state with
        tasks := state.tasks.save (inputs (ControlOp.saveTask task).site).now task } := by
  refine ⟨rfl, ?_, [], (append_nil _).symm, by simp⟩
  exact forall_mem_place (.inr (mem_singleton_self task.task)) fun _ old => .inl old

private theorem existsBy_eq_false (added : Added types first before after) {server : Server}
    (given : others ≠ []) (disjoint : ∀ type ∈ others, type ∉ types)
    (clear : before.tasks.existsBy (activeTasks server others) = false) :
    after.tasks.existsBy (activeTasks server others) = false := by
  rw [existsBy_activeTasks_eq_false given] at clear ⊢
  intro row member owned asked
  cases added.rows row member with
  | inl old => exact clear row old owned asked
  | inr new => exact absurd new (disjoint row.task asked)

end Added

section

variable {inputs : CallSite → ControlInput} {state : ControlState} {service : Service}

private theorem request_saveTask_error {task : DaemonTask}
    (met : (inputs (ControlOp.saveTask task).site).fault = some text) :
    request inputs (perform (.saveTask task) >>= raise) state = (state, .error (.other text)) :=
  request_perform_bind (.saveTask task) (attempt_of_fault met)

private theorem request_saveTask_ok {task : DaemonTask}
    (met : (inputs (ControlOp.saveTask task).site).fault = none) :
    ∃ after stored, request inputs (perform (.saveTask task) >>= raise) state =
      (after, .ok stored) ∧
      stored.task = task.task ∧ Added [task.task] false state after :=
  ⟨_, _, request_perform_bind (.saveTask task) (attempt_of_none met), rfl,
    Added.save inputs state task⟩

private theorem request_sendServerConfigUpdate (task : DaemonTask) :
    ∃ after, request inputs (sendServerConfigUpdate task) state = (after, .ok ()) ∧
      Added [] false state after := by
  unfold sendServerConfigUpdate
  split
  next =>
    cases found : ((inputs (.findServer task.task)).fault.isNone &&
        (inputs (.findServer task.task)).serverFound) with
    | false =>
      exact ⟨state, request_perform_bind (.findServer task) (congrArg (Prod.mk state) found),
        .refl state⟩
    | true =>
      cases met : (inputs (.sendConfigUpdate task.task)).fault with
      | some text =>
        refine ⟨state, (request_perform_bind (.findServer task)
          (congrArg (Prod.mk state) found)).trans ?_, .refl state⟩
        exact request_perform_bind (.sendConfigUpdate task) (attempt_of_fault met)
      | none =>
        refine ⟨{ state with sent := state.sent ++ [.serverConfigUpdate task.serverID] },
          (request_perform_bind (.findServer task) (congrArg (Prod.mk state) found)).trans ?_,
          ?_⟩
        · exact request_perform_bind (.sendConfigUpdate task) (attempt_of_none met)
        · refine ⟨rfl, fun _ member => .inl member, [], ?_, by simp⟩
          simp [taskMessages]
  next => exact ⟨state, rfl, .refl state⟩

private theorem request_sendPersisted (task : DaemonTask) :
    ∃ after stored, request inputs (sendPersisted task) state = (after, .ok stored) ∧
      Added [task.task] (inputs (.sendTask task.task)).fault.isNone state after := by
  cases met : (inputs (.sendTask task.task)).fault with
  | some text =>
    exact ⟨state, task, request_perform_bind (.sendTask task) (attempt_of_fault met),
      (Added.refl state).mono (nil_subset _)⟩
  | none =>
    let sent : ControlState := { state with sent := state.sent ++ [.task task] }
    have delivered : Added [] true state sent :=
      ⟨rfl, fun _ member => .inl member, [task], by simp [taskMessages, sent], by simp⟩
    have sending : handle .database (inputs (.sendTask task.task)) state (.sendTask task) =
        (sent, .ok ()) := attempt_of_none met
    cases again : (inputs (ControlOp.saveTask task).site).fault with
    | some text =>
      refine ⟨sent, task, (request_perform_bind (.sendTask task) sending).trans ?_,
        delivered.mono (nil_subset _)⟩
      exact request_perform_bind (.saveTask task) (attempt_of_fault again)
    | none =>
      let now := (inputs (ControlOp.saveTask task).site).now
      refine ⟨{ sent with tasks := sent.tasks.save now task }, sent.tasks.assigned now task,
        (request_perform_bind (.sendTask task) sending).trans ?_,
        delivered.trans (.save inputs sent task)⟩
      exact request_perform_bind (.saveTask task) (attempt_of_none again)

private theorem request_dispatchOrSaveTask_error (task : DaemonTask) (new : task.id = 0)
    (met : (inputs (.saveTask task.task)).fault = some text) :
    ∃ error, request inputs (dispatchOrSaveTask service task) state = (state, .error error) := by
  have site : (ControlOp.saveTask task).site = .saveTask task.task := if_pos new
  rw [← site] at met
  unfold dispatchOrSaveTask
  cases service.taskDispatcher with
  | false => exact ⟨_, request_saveTask_error met⟩
  | true =>
    exact ⟨_, request_bind_error (request_withMessage_error (request_saveTask_error met))⟩

private theorem request_dispatchOrSaveTask_ok (task : DaemonTask) (new : task.id = 0)
    (met : (inputs (.saveTask task.task)).fault = none) :
    ∃ after stored, request inputs (dispatchOrSaveTask service task) state = (after, .ok stored) ∧
      Added [task.task]
        (service.taskDispatcher && (inputs (.sendTask task.task)).fault.isNone) state after := by
  have site : (ControlOp.saveTask task).site = .saveTask task.task := if_pos new
  rw [← site] at met
  obtain ⟨persisted, stored, saving, same, saved⟩ := request_saveTask_ok met
  unfold dispatchOrSaveTask
  cases service.taskDispatcher with
  | false => exact ⟨persisted, stored, saving, saved⟩
  | true =>
    obtain ⟨configured, configuring, quiet⟩ :=
      request_sendServerConfigUpdate stored
    obtain ⟨after, last, sending, sent⟩ := request_sendPersisted stored
    refine ⟨after, last, ?_, ?_⟩
    · calc request inputs (dispatch task) state
        _ = request inputs (sendServerConfigUpdate stored >>= fun _ => sendPersisted stored)
            persisted := request_bind_ok (request_withMessage_ok saving)
        _ = request inputs (sendPersisted stored) configured := request_bind_ok configuring
        _ = (after, .ok last) := sending
    · rw [same] at sent
      exact ((saved.trans quiet).trans sent).mono (by simp)

def creates (inputs : CallSite → ControlInput) (addition : Addition) : Bool :=
  (inputs (.existsTask addition.exclusive)).fault.isNone &&
    (inputs (.saveTask addition.type)).fault.isNone

def delivers (service : Service) (inputs : CallSite → ControlInput) (addition : Addition) : Bool :=
  service.taskDispatcher && (inputs (.sendTask addition.type)).fault.isNone

def datedTask (inputs : CallSite → ControlInput) (addition : Addition) (server : Server)
    (runAftID : Option Nat) : DaemonTask :=
  newTask server addition.type runAftID (inputs (.now addition.type)).now
    (inputs (.now addition.type)).now

variable {addition : Addition}

variable (checked : addition.check server = .ok ())

include checked

theorem request_addServerTask_of_clear
    (met : (inputs (.existsTask addition.exclusive)).fault = none)
    (clear : state.tasks.existsBy (activeTasks server addition.exclusive) = false) :
    request inputs (addServerTask service addition server runAftID) state = request inputs
        (withMessage "failed to dispatch daemon task"
          (dispatchOrSaveTask service (datedTask inputs addition server runAftID)) >>=
            fun task => pure task.id) state := by
  have passed : request inputs (workingTasksExist server addition.exclusive) state =
      (state, .ok false) := clear ▸ request_workingTasksExist_ok _ server met
  have ensured : request inputs (ensure (addition.check server)) state = (state, .ok ()) := by
    rw [checked]
    rfl
  refine (request_bind_ok passed).trans ((request_bind_ok ensured).trans ?_)
  rfl

theorem request_addServerTask_error
    (clear : state.tasks.existsBy (activeTasks server addition.exclusive) = false)
    (fails : creates inputs addition = false) :
    ∃ error, request inputs (addServerTask service addition server runAftID) state =
      (state, .error error) := by
  cases met : (inputs (.existsTask addition.exclusive)).fault with
  | some text => exact ⟨_, request_bind_error (request_workingTasksExist_error server met)⟩
  | none =>
    have unsaved : ∃ text, (inputs (.saveTask addition.type)).fault = some text := by
      simpa [creates, met, ← Option.isSome_iff_exists] using fails
    obtain ⟨text, unsaved⟩ := unsaved
    rw [request_addServerTask_of_clear checked met clear]
    obtain ⟨error, failed⟩ :=
      request_dispatchOrSaveTask_error (datedTask inputs addition server runAftID) rfl unsaved
    exact ⟨_, request_bind_error (request_withMessage_error failed)⟩

theorem request_addServerTask_ok
    (clear : state.tasks.existsBy (activeTasks server addition.exclusive) = false)
    (succeeds : creates inputs addition = true) :
    ∃ after taskID, request inputs (addServerTask service addition server runAftID) state =
        (after, .ok taskID) ∧
      Added [addition.type] (delivers service inputs addition) state after := by
  obtain ⟨met, saved⟩ : (inputs (.existsTask addition.exclusive)).fault = none ∧
      (inputs (.saveTask addition.type)).fault = none := by
    simpa [creates] using succeeds
  rw [request_addServerTask_of_clear checked met clear]
  obtain ⟨after, stored, stores, added⟩ :=
    request_dispatchOrSaveTask_ok (datedTask inputs addition server runAftID) rfl saved
  exact ⟨after, stored.id, request_bind_ok (request_withMessage_ok stores), added⟩

end

section

variable {α : Type} {inputs : CallSite → ControlInput} {state after : ControlState}
  {action : Control α}

def ControlState.restored (state : ControlState) : ControlState :=
  { state with tasks := state.saved }

def ControlState.begun (state : ControlState) : ControlState := { state with saved := state.tasks }

private theorem request_inTransaction_of_begin (state : ControlState) (action : Control α)
    (begins : (inputs .beginTransaction).fault = none) :
    request inputs (inTransaction action) state =
      request inputs (endTransaction (request inputs action state.begun).2)
        (request inputs action state.begun).1 := by
  calc request inputs (inTransaction action) state
    _ = request inputs (action.attempt >>= endTransaction) state.begun :=
        request_perform_bind .beginTransaction (attempt_of_none begins)
    _ = _ := request_bind_ok eval_attempt

end

section

variable (service : Service) (server : Server) (inputs : CallSite → ControlInput)
  (state : ControlState)

def reinstallAdditions : List Addition := [stopAddition, deleteAddition, installAddition]

def anyDelivered : List Addition → Bool
  | [] => false
  | addition :: rest =>
    creates inputs addition && (delivers service inputs addition || anyDelivered rest)

structure Begins : Prop where
  uncancelled : service.pluginDispatcher = true → (inputs (.event .preReinstall)).cancelled = none
  checked : (inputs (.existsTask reinstallTypes)).fault = none
  clear : state.tasks.existsBy (activeTasks server reinstallTypes) = false
  begun : (inputs .beginTransaction).fault = none

def Recallable : Prop :=
  Begins service server inputs state → anyDelivered service inputs reinstallAdditions = true →
    (∀ addition ∈ reinstallAdditions, creates inputs addition = true) ∧
      (inputs .commit).fault = none

structure Undone (before after : ControlState) : Prop where
  rows : ∀ row ∈ after.tasks.rows, row.serverID = some server.id → row ∈ before.tasks.rows
  messages : taskMessages after = taskMessages before

def FailsCleanly : Prop :=
  ∀ error, (request inputs (reinstall service server) state).2 = .error error →
    Undone server state (request inputs (reinstall service server) state).1

variable {service server inputs state}

private theorem anyDelivered_append (first rest : List Addition) :
    anyDelivered service inputs (first ++ rest) = (anyDelivered service inputs first ||
        first.all (creates inputs) && anyDelivered service inputs rest) := by
  induction first with
  | nil => rfl
  | cons addition first ih =>
    rw [cons_append, anyDelivered, anyDelivered, all_cons, ih]
    cases creates inputs addition <;> simp [Bool.or_assoc]

def Makes (service : Service) (server : Server) (inputs : CallSite → ControlInput)
    (additions : List Addition) (action : Control Nat) : Prop :=
  ∀ state : ControlState,
    (∀ addition ∈ additions, state.tasks.existsBy (activeTasks server addition.exclusive) = false) →
    ∃ after result, request inputs action state = (after, result) ∧
      (result.isOk = additions.all (creates inputs)) ∧
      Added (additions.map Addition.type) (anyDelivered service inputs additions) state after

namespace Makes

theorem addServerTask {addition : Addition} (checked : addition.check server = .ok ())
    (runAftID : Option Nat) :
    Makes service server inputs [addition] (addServerTask service addition server runAftID) := by
  intro state clear
  have free := clear addition (mem_singleton_self addition)
  cases made : creates inputs addition with
  | false =>
    obtain ⟨error, failed⟩ := request_addServerTask_error checked free made
    refine ⟨state, .error error, failed, by simp [made, Except.isOk, Except.toBool], ?_⟩
    have silent : anyDelivered service inputs [addition] = false := by simp [anyDelivered, made]
    rw [silent]
    exact (Added.refl state).mono (nil_subset _)
  | true =>
    obtain ⟨after, taskID, succeeded, added⟩ := request_addServerTask_ok checked free made
    refine ⟨after, .ok taskID, succeeded, by simp [made, Except.isOk, Except.toBool], ?_⟩
    have sent : anyDelivered service inputs [addition] = delivers service inputs addition := by
      simp [anyDelivered, made]
    rw [sent]
    exact added

theorem withMessage {action : Control Nat} (makes : Makes service server inputs additions action)
    (text : String) : Makes service server inputs additions (withMessage text action) := by
  intro state clear
  obtain ⟨after, result, requested, whether, added⟩ := makes state clear
  cases result with
  | error error =>
    exact ⟨after, .error (.withMessage text error), request_withMessage_error requested, whether,
      added⟩
  | ok taskID => exact ⟨after, .ok taskID, request_withMessage_ok requested, whether, added⟩

theorem bind {first rest : List Addition} {action : Control Nat} {next : Nat → Control Nat}
    (makes : Makes service server inputs first action)
    (makesNext : ∀ taskID, Makes service server inputs rest (next taskID))
    (apart : ∀ earlier ∈ first, ∀ later ∈ rest, earlier.type ∉ later.exclusive) :
    Makes service server inputs (first ++ rest) (action >>= next) := by
  intro state clear
  rw [forall_mem_append] at clear
  obtain ⟨between, result, requested, whether, added⟩ := makes state clear.1
  cases result with
  | error error =>
    have failed : first.all (creates inputs) = false := whether.symm
    refine ⟨between, .error error, request_bind_error requested, ?_, ?_⟩
    · rw [all_append, failed]
      rfl
    · rw [anyDelivered_append, failed, Bool.false_and, Bool.or_false, map_append]
      exact added.mono (subset_append_left _ _)
  | ok taskID =>
    have succeeded : first.all (creates inputs) = true := whether.symm
    have clearLater : ∀ later ∈ rest,
        between.tasks.existsBy (activeTasks server later.exclusive) = false := by
      intro later member
      refine added.existsBy_eq_false (ne_nil_of_mem later.own) ?_ (clear.2 later member)
      intro type excluded made
      obtain ⟨earlier, earlierMember, rfl⟩ := mem_map.mp made
      exact apart earlier earlierMember later member excluded
    obtain ⟨after, last, requestedLast, whetherLast, addedLast⟩ :=
      makesNext taskID between clearLater
    refine ⟨after, last, (request_bind_ok requested).trans requestedLast, ?_, ?_⟩
    · rw [all_append, succeeded, whetherLast, Bool.true_and]
    · rw [anyDelivered_append, succeeded, map_append]
      exact added.trans addedLast

end Makes

private theorem makes_addReinstall :
    Makes service server inputs reinstallAdditions (addReinstall service server) := by
  have last (deleteTaskID : Nat) : Makes service server inputs [installAddition]
      (Servers.withMessage "failed to create install task"
        (addServerInstall service server deleteTaskID)) :=
    (Makes.addServerTask rfl (runAfter deleteTaskID)).withMessage _
  have later (stopTaskID : Nat) : Makes service server inputs [deleteAddition, installAddition]
      (Servers.withMessage "failed to create delete task"
        (addServerDelete service server stopTaskID) >>= fun deleteTaskID =>
          Servers.withMessage "failed to create install task"
            (addServerInstall service server deleteTaskID)) :=
    ((Makes.addServerTask rfl (runAfter stopTaskID)).withMessage _).bind last (by decide)
  exact ((Makes.addServerTask rfl (runAfter 0)).withMessage _).bind later (by decide)

private theorem exclusive_subset_reinstallTypes {addition : Addition}
    (member : addition ∈ reinstallAdditions) : addition.exclusive ⊆ reinstallTypes := by
  simp only [reinstallAdditions, mem_cons, not_mem_nil, or_false] at member
  obtain rfl | rfl | rfl := member <;> decide

theorem request_dispatchPreEvent_ok (server : Server) (state : ControlState)
    {event : PluginEventType}
    (uncancelled : service.pluginDispatcher = true → (inputs (.event event)).cancelled = none) :
    request inputs (dispatchPreEvent service event server) state = (state, .ok ()) := by
  unfold dispatchPreEvent
  split
  next given =>
    exact request_perform_bind (.dispatchServerEvent event server)
      (congrArg (Prod.mk state) (uncancelled given))
  next => rfl

theorem request_dispatchPreEvent_error {event : PluginEventType} {cancellation : Cancellation}
    (given : service.pluginDispatcher = true)
    (cancelled : (inputs (.event event)).cancelled = some cancellation) :
    request inputs (dispatchPreEvent service event server) state =
      (state, .error (.cancelledByPlugin cancellation)) := by
  unfold dispatchPreEvent
  rw [if_pos given]
  exact request_perform_bind (.dispatchServerEvent event server)
    (congrArg (Prod.mk state) cancelled)

theorem request_dispatchPostEvent (event : PluginEventType) :
    request inputs (dispatchPostEvent service event server) state = (state, .ok ()) := by
  unfold dispatchPostEvent
  split <;> rfl

private theorem request_reinstall_of_not_begins (stopped : ¬Begins service server inputs state) :
    ∃ error, request inputs (reinstall service server) state = (state, .error error) := by
  by_cases uncancelled : service.pluginDispatcher = true →
      (inputs (.event .preReinstall)).cancelled = none
  · have passed := request_dispatchPreEvent_ok server state uncancelled
    cases met : (inputs (.existsTask reinstallTypes)).fault with
    | some text =>
      exact ⟨_, (request_bind_ok passed).trans
        (request_bind_error (request_workingTasksExist_error server met))⟩
    | none =>
      have checked := request_workingTasksExist_ok state server met
      cases active : state.tasks.existsBy (activeTasks server reinstallTypes) with
      | true =>
        rw [active] at checked
        exact ⟨.anotherTaskAlreadyExists, (request_bind_ok passed).trans (request_bind_ok checked)⟩
      | false =>
        rw [active] at checked
        cases begun : (inputs .beginTransaction).fault with
        | some text =>
          refine ⟨.other text, (request_bind_ok passed).trans
            ((request_bind_ok checked).trans (request_bind_error ?_))⟩
          exact request_perform_bind .beginTransaction (attempt_of_fault begun)
        | none => exact absurd ⟨uncancelled, met, active, begun⟩ stopped
  · obtain ⟨given, cancelled⟩ := Classical.not_imp.mp uncancelled
    obtain ⟨cancellation, cancelled⟩ := Option.ne_none_iff_exists'.mp cancelled
    exact ⟨_, request_bind_error (request_dispatchPreEvent_error given cancelled)⟩

private theorem request_reinstall_of_begins (begins : Begins service server inputs state) :
    request inputs (reinstall service server) state =
      request inputs (inTransaction (addReinstall service server) >>= fun installTaskID =>
        dispatchPostEvent service .postReinstall server >>= fun _ => pure installTaskID) state := by
  have passed := request_dispatchPreEvent_ok server state begins.uncancelled
  have checked := request_workingTasksExist_ok state server begins.checked
  rw [begins.clear] at checked
  exact (request_bind_ok passed).trans (request_bind_ok checked)

private theorem request_reinstall_outcome (begins : Begins service server inputs state) :
    ∃ after, Added (reinstallAdditions.map Addition.type)
        (anyDelivered service inputs reinstallAdditions) state.begun after ∧
      if reinstallAdditions.all (creates inputs) && (inputs .commit).fault.isNone then
        ∃ taskID, request inputs (reinstall service server) state = (after, .ok taskID) else
        ∃ error, request inputs (reinstall service server) state =
          (after.restored, .error error) := by
  have clear : ∀ addition ∈ reinstallAdditions,
      state.begun.tasks.existsBy (activeTasks server addition.exclusive) = false := by
    intro addition member
    exact existsBy_activeTasks_of_subset (exclusive_subset_reinstallTypes member)
      (ne_nil_of_mem addition.own) begins.clear
  obtain ⟨after, result, made, whether, added⟩ :=
    makes_addReinstall state.begun clear
  refine ⟨after, added, ?_⟩
  rw [← whether, request_reinstall_of_begins begins]
  have transaction :=
    request_inTransaction_of_begin state (addReinstall service server) begins.begun
  rw [made] at transaction
  cases result with
  | error error =>
    exact ⟨error, request_bind_error (transaction.trans rfl)⟩
  | ok taskID =>
    cases met : (inputs .commit).fault with
    | some text =>
      exact ⟨_, request_bind_error
        (transaction.trans (request_perform_bind .commit (attempt_of_fault met)))⟩
    | none =>
      have committed := transaction.trans (request_perform_bind .commit (attempt_of_none met))
      exact ⟨taskID, (request_bind_ok committed).trans
        (request_bind_ok (request_dispatchPostEvent .postReinstall))⟩

private theorem undone_restored_iff {types : List DaemonTaskType} {after : ControlState}
    (added : Added types delivered state.begun after) :
    Undone server state after.restored ↔ delivered = false := by
  have rows : after.restored.tasks = state.tasks := added.saved
  obtain ⟨messages, grown, silent⟩ := added.messages
  have sent : taskMessages after.restored = taskMessages state ++ messages := grown
  constructor
  · intro undone
    have same := undone.messages
    rw [sent, append_right_eq_self] at same
    exact silent.mp same
  · intro undelivered
    refine ⟨?_, ?_⟩
    · intro row member _
      rwa [rows] at member
    · rw [sent, silent.mpr undelivered, append_nil]

theorem reinstall_failsCleanly_iff (service : Service) (server : Server)
    (inputs : CallSite → ControlInput) (state : ControlState) :
    FailsCleanly service server inputs state ↔ Recallable service server inputs state := by
  unfold FailsCleanly
  by_cases begins : Begins service server inputs state
  · obtain ⟨after, added, outcome⟩ := request_reinstall_outcome begins
    cases succeeds : reinstallAdditions.all (creates inputs) && (inputs .commit).fault.isNone with
    | true =>
      rw [if_pos succeeds] at outcome
      obtain ⟨taskID, succeeded⟩ := outcome
      rw [Bool.and_eq_true, all_eq_true, Option.isNone_iff_eq_none] at succeeds
      refine iff_of_true ?_ fun _ _ => succeeds
      intro error failed
      rw [succeeded] at failed
      cases failed
    | false =>
      have failing : ¬((∀ addition ∈ reinstallAdditions, creates inputs addition = true) ∧
          (inputs .commit).fault = none) := by
        rw [← Option.isNone_iff_eq_none, ← all_eq_true, ← Bool.and_eq_true, succeeds]
        exact Bool.false_ne_true
      rw [if_neg (by rw [succeeds]; exact Bool.false_ne_true)] at outcome
      obtain ⟨error, failed⟩ := outcome
      rw [failed]
      constructor
      · intro undone _ delivered
        exact absurd ((undone_restored_iff added).mp (undone error rfl)) (by simp [delivered])
      · intro recallable _ _
        refine (undone_restored_iff added).mpr (Bool.eq_false_iff.mpr fun delivered => ?_)
        exact failing (recallable begins delivered)
  · obtain ⟨error, failed⟩ := request_reinstall_of_not_begins begins
    refine iff_of_true ?_ fun reached => absurd reached begins
    intro _ _
    rw [failed]
    exact ⟨fun row member _ => member, rfl⟩

end

def lostConnection : CallSite → ControlInput
  | .saveTask .serverDelete => ⟨20, some "connection lost", none, true⟩
  | _ => ⟨10, none, none, true⟩

def idleState : ControlState where
  tasks := .empty
  settings := .empty
  sent := []
  saved := .empty

theorem lostConnection_not_failsCleanly :
    ¬FailsCleanly ⟨false, true⟩ { (default : Server) with id := 5 } lostConnection idleState := by
  intro clean
  have silent := (clean _ rfl).messages
  exact absurd (congrArg length silent) (by decide)

end ShadowPanel.Servers
