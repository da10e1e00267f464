import ShadowPanel.Servers.Reinstall

namespace ShadowPanel.Servers

open Data Domain Repositories

/-! What a `Start`, a `Stop` or a `Restart` that fails leaves behind. -/

inductive PowerRequest where
  | start
  | stop
  | restart
  deriving DecidableEq

namespace PowerRequest

def action (service : Service) (server : Server) : PowerRequest → Control Nat
  | .start => Servers.start service server
  | .stop => Servers.stop service server
  | .restart => Servers.restart service server

def preEvent : PowerRequest → PluginEventType
  | .start => .preStart
  | .stop => .preStop
  | .restart => .preRestart

def postEvent : PowerRequest → PluginEventType
  | .start => .postStart
  | .stop => .postStop
  | .restart => .postRestart

def desired : PowerRequest → Bool
  | .stop => false
  | _ => true

def prepare (server : Server) : PowerRequest → Control Unit
  | .stop => updateAutostartCurrent server.id false
  | _ => updateAutostartCurrentIfEnabled server.id true

def addition : PowerRequest → Addition
  | .start => startAddition
  | .stop => stopAddition
  | .restart => restartAddition

def runAftID : PowerRequest → Option Nat
  | .start => some 0
  | _ => none

theorem action_eq (power : PowerRequest) (service : Service) (server : Server) :
    power.action service server = (do
      dispatchPreEvent service power.preEvent server
      power.prepare server
      let taskID ← addServerTask service power.addition server power.runAftID
      dispatchPostEvent service power.postEvent server
      pure taskID) := by
  cases power <;> rfl

end PowerRequest

def currentSetting (settings : ServerSettingRepository) (serverID : Nat) : Option ServerSetting :=
  (settings.find serverID autostartCurrentSettingKey).head?

def desiredSetting (settings : ServerSettingRepository) (serverID : Nat) (value : Bool) :
    ServerSetting :=
  match currentSetting settings serverID with
  | none => ⟨0, autostartCurrentSettingKey, serverID, .bool value⟩
  | some setting => { setting with value := .bool value }

private theorem rows_save_desiredSetting_iff (numbered : settings.Numbered) (serverID : Nat)
    (value : Bool) :
    (settings.save (desiredSetting settings serverID value)).rows = settings.rows ↔
      ∃ setting, currentSetting settings serverID = some setting ∧ setting.value = .bool value := by
  rw [desiredSetting]
  cases found : currentSetting settings serverID with
  | none =>
    refine iff_of_false ?_ (by simp)
    intro same
    have member : (⟨settings.nextID + 1, autostartCurrentSettingKey, serverID, .bool value⟩ :
        ServerSetting) ∈ settings.rows := by
      rw [← same]
      exact mem_place_self ServerSetting.id _ settings.rows
    exact absurd (numbered.given _ member).2 (Nat.not_succ_le_self _)
  | some setting =>
    have member : setting ∈ settings.rows :=
      (List.mem_filter.mp (List.mem_of_head? found)).1
    have kept : setting.id ≠ 0 := (numbered.given setting member).1
    obtain ⟨earlier, later, before, after⟩ :=
      replaced_place { setting with value := .bool value } numbered.ordered member rfl
    have saved : (settings.save { setting with value := .bool value }).rows =
        earlier ++ { setting with value := .bool value } :: later := by
      rw [ServerSettingRepository.save, if_neg kept, after]
    rw [saved, before, List.append_cancel_left_eq, List.cons.injEq, and_iff_left rfl]
    constructor
    · intro same
      exact ⟨setting, rfl, (congrArg ServerSetting.value same).symm⟩
    · rintro ⟨_, ⟨⟩, same⟩
      rw [← same]

section

variable (power : PowerRequest) (service : Service) (server : Server)
  (inputs : CallSite → ControlInput) (state : ControlState)

def Enabled : Prop :=
  (inputs (.findSetting autostartSettingKey)).fault = none ∧
    ((state.settings.find server.id autostartSettingKey).head?.bind
      fun setting => setting.value.toBool) = some true

def SavesSetting : Prop :=
  (inputs (.findSetting autostartCurrentSettingKey)).fault = none ∧
    (inputs .saveSetting).fault = none

/-- `Start` and `Restart` only set `autostart_current` where `autostart` is on. -/
def Writes : Prop := (power ≠ .stop → Enabled server inputs state) ∧ SavesSetting inputs

def Adds : Prop :=
  creates inputs power.addition = true ∧ power.addition.check server = .ok () ∧
    state.tasks.existsBy (activeTasks server power.addition.exclusive) = false

def ControlState.withSetting (state : ControlState) (serverID : Nat) (value : Bool) :
    ControlState :=
  { state with settings := state.settings.save (desiredSetting state.settings serverID value) }

variable {power service server inputs state}

theorem request_getSetting_ok (met : (inputs (.findSetting name)).fault = none) :
    request inputs (getSetting serverID name) state =
      (state, .ok (state.settings.find serverID name).head?) :=
  request_perform_bind (.findSetting serverID name) (attempt_of_none met)

theorem request_getSetting_error (met : (inputs (.findSetting name)).fault = some text) :
    request inputs (getSetting serverID name) state = (state, .error (.other text)) :=
  request_perform_bind (.findSetting serverID name) (attempt_of_fault met)

private theorem request_updateAutostartCurrent_ok (state : ControlState)
    (saves : SavesSetting inputs) (serverID : Nat) (value : Bool) :
    request inputs (updateAutostartCurrent serverID value) state =
      (state.withSetting serverID value, .ok ()) := by
  refine (request_bind_ok (request_withMessage_ok (request_getSetting_ok saves.1))).trans
    (request_withMessage_ok ?_)
  exact request_perform_bind (.saveSetting (desiredSetting state.settings serverID value))
    (attempt_of_none saves.2)

private theorem request_updateAutostartCurrent_error (state : ControlState)
    (fails : ¬SavesSetting inputs) (serverID : Nat) (value : Bool) :
    ∃ error, request inputs (updateAutostartCurrent serverID value) state =
      (state, .error error) := by
  cases found : (inputs (.findSetting autostartCurrentSettingKey)).fault with
  | some text =>
    exact ⟨_, request_bind_error (request_withMessage_error (request_getSetting_error found))⟩
  | none =>
    cases saved : (inputs .saveSetting).fault with
    | some text =>
      refine ⟨.withMessage _ (.other text), (request_bind_ok (request_withMessage_ok
        (request_getSetting_ok found))).trans (request_withMessage_error ?_)⟩
      exact request_perform_bind (.saveSetting _) (attempt_of_fault saved)
    | none => exact absurd ⟨found, saved⟩ fails

theorem request_ifEnabled_of_enabled (enabled : Enabled server inputs state) (value : Bool) :
    request inputs (updateAutostartCurrentIfEnabled server.id value) state =
      request inputs (updateAutostartCurrent server.id value) state := by
  refine (request_bind_ok (request_withMessage_ok (request_getSetting_ok enabled.1))).trans ?_
  rw [if_pos enabled.2]

private theorem request_ifEnabled_of_not (disabled : ¬Enabled server inputs state) (value : Bool) :
    ∃ result, request inputs (updateAutostartCurrentIfEnabled server.id value) state =
      (state, result) := by
  cases found : (inputs (.findSetting autostartSettingKey)).fault with
  | some text =>
    exact ⟨_, request_bind_error (request_withMessage_error (request_getSetting_error found))⟩
  | none =>
    refine ⟨.ok (), (request_bind_ok (request_withMessage_ok
      (request_getSetting_ok found))).trans ?_⟩
    rw [if_neg fun on => disabled ⟨found, on⟩]
    rfl

private theorem request_prepare_of_writes (writes : Writes power server inputs state) :
    request inputs (power.prepare server) state =
      (state.withSetting server.id power.desired, .ok ()) := by
  have saved := request_updateAutostartCurrent_ok state writes.2 server.id power.desired
  cases power with
  | stop => exact saved
  | start | restart => exact (request_ifEnabled_of_enabled (writes.1 nofun) true).trans saved

private theorem request_prepare_of_not (fails : ¬Writes power server inputs state) :
    ∃ result, request inputs (power.prepare server) state = (state, result) := by
  by_cases enabled : power ≠ .stop → Enabled server inputs state
  · have unsaved : ¬SavesSetting inputs := fun saves => fails ⟨enabled, saves⟩
    obtain ⟨error, failed⟩ :=
      request_updateAutostartCurrent_error state unsaved server.id power.desired
    refine ⟨.error error, ?_⟩
    cases power with
    | stop => exact failed
    | start | restart => exact (request_ifEnabled_of_enabled (enabled nofun) true).trans failed
  · obtain ⟨other, disabled⟩ := Classical.not_imp.mp enabled
    have kept := request_ifEnabled_of_not disabled true
    cases power with
    | stop => exact absurd rfl other
    | start | restart => exact kept

private theorem request_addition_ok (adds : Adds power server inputs state)
    (runAftID : Option Nat) :
    ∃ after taskID, request inputs (addServerTask service power.addition server runAftID) state =
      (after, .ok taskID) := by
  obtain ⟨created, checked, clear⟩ := adds
  obtain ⟨after, taskID, done, _⟩ := request_addServerTask_ok checked clear created
  exact ⟨after, taskID, done⟩

private theorem request_addition_error (fails : ¬Adds power server inputs state)
    (runAftID : Option Nat) :
    ∃ error, request inputs (addServerTask service power.addition server runAftID) state =
      (state, .error error) := by
  cases met : (inputs (.existsTask power.addition.exclusive)).fault with
  | some text => exact ⟨_, request_bind_error (request_workingTasksExist_error server met)⟩
  | none =>
    have known := request_workingTasksExist_ok state server met
    cases active : state.tasks.existsBy (activeTasks server power.addition.exclusive) with
    | true =>
      rw [active] at known
      exact ⟨power.addition.refusal, request_bind_ok known⟩
    | false =>
      cases checked : power.addition.check server with
      | error error =>
        rw [active] at known
        refine ⟨error, (request_bind_ok known).trans (request_bind_error ?_)⟩
        rw [checked]
        rfl
      | ok _ =>
        refine request_addServerTask_error checked active (Bool.eq_false_iff.mpr ?_)
        exact fun created => fails ⟨created, checked, active⟩

end

section

variable (power : PowerRequest) (service : Service) (server : Server)
  (inputs : CallSite → ControlInput) (state : ControlState)

def LeavesNothing : Prop :=
  ∀ error, (request inputs (power.action service server) state).2 = .error error →
    (request inputs (power.action service server) state).1.settings.rows = state.settings.rows ∧
      (request inputs (power.action service server) state).1.tasks.rows = state.tasks.rows

def Proceeds : Prop :=
  service.pluginDispatcher = true → (inputs (.event power.preEvent)).cancelled = none

variable {power service server inputs state}

private theorem leavesNothing_of_error
    (failed : request inputs (power.action service server) state = (after, .error error)) :
    LeavesNothing power service server inputs state ↔
      after.settings.rows = state.settings.rows ∧ after.tasks.rows = state.tasks.rows := by
  rw [LeavesNothing, failed]
  exact ⟨fun leaves => leaves error rfl, fun same _ _ => same⟩

private theorem leavesNothing_of_ok
    (done : request inputs (power.action service server) state = (after, .ok taskID)) :
    LeavesNothing power service server inputs state := by
  rw [LeavesNothing, done]
  exact fun _ failed => nomatch failed

private theorem request_action_of_prepared (proceeds : Proceeds power service inputs)
    (prepared : request inputs (power.prepare server) state = (after, .ok ())) :
    Adds power server inputs after ∧
        (∃ last taskID, request inputs (power.action service server) state = (last, .ok taskID)) ∨
      ¬Adds power server inputs after ∧
        ∃ error, request inputs (power.action service server) state = (after, .error error) := by
  rw [power.action_eq, (request_bind_ok (request_dispatchPreEvent_ok _ _ proceeds)).trans
    (request_bind_ok prepared)]
  by_cases adds : Adds power server inputs after
  · obtain ⟨last, taskID, added⟩ := request_addition_ok adds power.runAftID
    exact .inl ⟨adds, last, taskID, (request_bind_ok added).trans
      (request_bind_ok (request_dispatchPostEvent power.postEvent))⟩
  · obtain ⟨error, failed⟩ := request_addition_error adds power.runAftID
    exact .inr ⟨adds, error, request_bind_error failed⟩

end

/-- Exactly when the setting is not written, or has the value already, or the task is made. -/
theorem leavesNothing_iff (power : PowerRequest) (service : Service) (server : Server)
    (inputs : CallSite → ControlInput) (state : ControlState) (numbered : state.settings.Numbered) :
    LeavesNothing power service server inputs state ↔
      (Proceeds power service inputs → Writes power server inputs state →
        (∃ setting, currentSetting state.settings server.id = some setting ∧
            setting.value = .bool power.desired) ∨
          Adds power server inputs state) := by
  by_cases proceeds : Proceeds power service inputs
  · by_cases writes : Writes power server inputs state
    · rcases request_action_of_prepared proceeds (request_prepare_of_writes writes) with
        ⟨adds, last, taskID, done⟩ | ⟨refused, error, failed⟩
      · exact iff_of_true (leavesNothing_of_ok done) fun _ _ => .inr adds
      · have unmade : ¬Adds power server inputs state := refused
        have tasks : (state.withSetting server.id power.desired).tasks.rows = state.tasks.rows :=
          rfl
        rw [leavesNothing_of_error failed, and_iff_left tasks,
          ← rows_save_desiredSetting_iff numbered]
        simp only [proceeds, writes, unmade, or_false, true_imp_iff]
        rfl
    · refine iff_of_true ?_ fun _ written => absurd written writes
      obtain ⟨result, prepared⟩ := request_prepare_of_not writes
      cases result with
      | error error =>
        have failed : request inputs (power.action service server) state =
            (state, .error error) := by
          rw [power.action_eq]
          exact (request_bind_ok (request_dispatchPreEvent_ok _ _ proceeds)).trans
            (request_bind_error prepared)
        exact (leavesNothing_of_error failed).mpr ⟨rfl, rfl⟩
      | ok _ =>
        rcases request_action_of_prepared proceeds prepared with
          ⟨_, last, taskID, done⟩ | ⟨_, error, failed⟩
        · exact leavesNothing_of_ok done
        · exact (leavesNothing_of_error failed).mpr ⟨rfl, rfl⟩
  · refine iff_of_true ?_ fun proceeded => absurd proceeded proceeds
    obtain ⟨given, cancelled⟩ := Classical.not_imp.mp proceeds
    obtain ⟨cancellation, cancelled⟩ := Option.ne_none_iff_exists'.mp cancelled
    have failed : request inputs (power.action service server) state =
        (state, .error (.cancelledByPlugin cancellation)) := by
      rw [power.action_eq]
      exact request_bind_error (request_dispatchPreEvent_error given cancelled)
    exact (leavesNothing_of_error failed).mpr ⟨rfl, rfl⟩

def stoppingState : ControlState :=
  { idleState with
    tasks := idleState.tasks.save 10
      (newTask { (default : Server) with id := 5 } .serverStop none 10 10) }

def undisturbed (_ : CallSite) : ControlInput := ⟨20, none, none, true⟩

theorem leavesNothing_start_of_disabled :
    LeavesNothing .start ⟨false, false⟩ { (default : Server) with id := 5 } undisturbed
      stoppingState :=
  (leavesNothing_iff .start ⟨false, false⟩ { (default : Server) with id := 5 } undisturbed
    stoppingState ServerSettingRepository.numbered_empty).mpr fun _ writes =>
      absurd (writes.1 nofun).2 (by decide)

theorem stop_refused_leaves_setting :
    ¬LeavesNothing .stop ⟨false, false⟩ { (default : Server) with id := 5 } undisturbed
      stoppingState := by
  intro leaves
  have same := (leaves (.taskAlreadyExists "server stop") rfl).1
  exact absurd (congrArg List.length same) (by decide)

end ShadowPanel.Servers
