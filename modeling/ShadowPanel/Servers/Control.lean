import ShadowPanel.Data.Programs
import ShadowPanel.Repositories.Servers
import ShadowPanel.Repositories.Tasks

namespace ShadowPanel.Servers

open Data Domain Filters Repositories List

/-! The requests to game servers of `internal/services/servercontrol/servercontrol.go`,
as programs of the calls that they make. -/

inductive PluginEventType where
  | preStart
  | postStart
  | preStop
  | postStop
  | preRestart
  | postRestart
  | preInstall
  | postInstall
  | preUpdate
  | postUpdate
  | preReinstall
  | postReinstall
  | preDelete
  | postDelete

structure Cancellation where
  cancelledBy : String
  cancelMessage : String

inductive ControlError where
  | other (text : String)
  | cancelledByPlugin (cancellation : Cancellation)
  | taskAlreadyExists (taskName : String)
  | anotherTaskAlreadyExists
  | emptyServerStartCommand
  | serverUpdateInstallInProgress
  | withMessage (text : String) (cause : ControlError)

namespace ControlError

def message : ControlError → String
  | .other text => text
  | .cancelledByPlugin cancellation =>
    "cancelled by " ++ cancellation.cancelledBy ++ ": " ++
      (if cancellation.cancelMessage = "" then cancellation.cancelledBy
        else cancellation.cancelMessage) ++
      ": operation cancelled by plugin"
  | .taskAlreadyExists taskName => "task '" ++ taskName ++ "' already exists"
  | .anotherTaskAlreadyExists =>
    "another task already exists, please wait until it is completed"
  | .emptyServerStartCommand => "empty server start command"
  | .serverUpdateInstallInProgress => "server update/install task is already in progress"
  | .withMessage text cause => text ++ ": " ++ cause.message

end ControlError

/-- The calls that leave the service.  `now` is the clock that a new task of the type
is dated with. -/
inductive ControlOp where
  | dispatchServerEvent (event : PluginEventType) (server : Server)
  | findSetting (serverID : Nat) (name : String)
  | saveSetting (setting : ServerSetting)
  | existsTask (filter : FindDaemonTask)
  | now (task : DaemonTaskType)
  | saveTask (task : DaemonTask)
  | findServer (task : DaemonTask)
  | sendConfigUpdate (task : DaemonTask)
  | sendTask (task : DaemonTask)
  | beginTransaction
  | commit
  | rollback

namespace ControlOp

/-- A task that is saved comes back as `Save` leaves it with its caller. -/
abbrev Answer : ControlOp → Type
  | .dispatchServerEvent _ _ => Option Cancellation
  | .findSetting _ _ => Except String (List ServerSetting)
  | .existsTask _ => Except String Bool
  | .now _ => Int
  | .saveTask _ => Except String DaemonTask
  | .findServer _ => Bool
  | .saveSetting _ | .sendConfigUpdate _ | .sendTask _ | .beginTransaction | .commit =>
    Except String Unit
  | .rollback => Unit

end ControlOp

abbrev Control := Program ControlOp ControlOp.Answer ControlError

def perform (op : ControlOp) : Control op.Answer := Program.perform op

def raise {α : Type} : Except String α → Control α
  | .error text => throw (.other text)
  | .ok value => pure value

def ensure : Except ControlError Unit → Control Unit
  | .error error => throw error
  | .ok _ => pure ()

def withMessage {α : Type} (text : String) (action : Control α) : Control α :=
  tryCatch action fun cause => throw (.withMessage text cause)

structure Service where
  pluginDispatcher : Bool
  taskDispatcher : Bool

/-- What is loaded for the message besides the server only goes into its contents. -/
def sendServerConfigUpdate (task : DaemonTask) : Control Unit := do
  if task.serverID.isSome then
    if ← perform (.findServer task) then
      let _ ← perform (.sendConfigUpdate task)

/-- A task that could be sent is saved a second time; that it fails is only logged. -/
def sendPersisted (task : DaemonTask) : Control DaemonTask := do
  match ← perform (.sendTask task) with
  | .error _ => pure task
  | .ok _ =>
    match ← perform (.saveTask task) with
    | .error _ => pure task
    | .ok task => pure task

def dispatch (task : DaemonTask) : Control DaemonTask := do
  let task ← withMessage "persist task" do raise (← perform (.saveTask task))
  sendServerConfigUpdate task
  sendPersisted task

variable (service : Service)

def dispatchOrSaveTask (task : DaemonTask) : Control DaemonTask :=
  if service.taskDispatcher then dispatch task
  else do raise (← perform (.saveTask task))

def activeTasks (server : Server) (taskTypes : List DaemonTaskType) : FindDaemonTask :=
  { findDaemonTaskByIDs [] with
    serverIDs := [some server.id], tasks := taskTypes, statuses := [.waiting, .working] }

def workingTasksExist (server : Server) (taskTypes : List DaemonTaskType) : Control Bool :=
  withMessage "failed to check daemon task existence" do
    raise (← perform (.existsTask (activeTasks server taskTypes)))

variable {types : List DaemonTaskType}

theorem isFound_activeTasks (given : types ≠ []) :
    DaemonTaskRepository.isFound (activeTasks server types) row = true ↔
      row.serverID = some server.id ∧ row.task ∈ types ∧ row.status.isTerminal = false := by
  obtain ⟨type, rest, rfl⟩ := exists_cons_of_ne_nil given
  have active : row.status = .waiting ∨ row.status = .working ↔ row.status.isTerminal = false := by
    cases row.status <;> decide
  have owned : row.serverID.isSome = true ∧ row.serverID = some server.id ↔
      row.serverID = some server.id := by
    refine and_iff_right_of_imp ?_
    intro same
    rw [same]
    rfl
  simp [DaemonTaskRepository.isFound, activeTasks, findDaemonTaskByIDs, owned, active, and_assoc]

theorem existsBy_activeTasks_eq_false {store : DaemonTaskRepository} (given : types ≠ []) :
    store.existsBy (activeTasks server types) = false ↔
      ∀ row ∈ store.rows, row.serverID = some server.id → row.task ∈ types →
        row.status.isTerminal = true := by
  have any : store.existsBy (activeTasks server types) =
      store.rows.any (DaemonTaskRepository.isFound (activeTasks server types)) := rfl
  rw [any, any_eq_false]
  refine forall₂_congr fun row _ => ?_
  rw [isFound_activeTasks given]
  simp

theorem existsBy_activeTasks_of_subset {store : DaemonTaskRepository} (within : fewer ⊆ types)
    (given : fewer ≠ []) (clear : store.existsBy (activeTasks server types) = false) :
    store.existsBy (activeTasks server fewer) = false := by
  have given' : types ≠ [] := ne_nil_of_mem (within (head_mem given))
  rw [existsBy_activeTasks_eq_false given'] at clear
  rw [existsBy_activeTasks_eq_false given]
  intro row member owned asked
  exact clear row member owned (within asked)

def serverCommandCorrectOrFail (server : Server) : Except ControlError Unit :=
  if server.startCommand.getD "" = "" then .error .emptyServerStartCommand else .ok ()

def newTask (server : Server) (type : DaemonTaskType) (runAftID : Option Nat)
    (created updated : Int) : DaemonTask where
  id := 0
  runAftID := runAftID
  createdAt := some created
  updatedAt := some updated
  dedicatedServerID := server.dsID
  serverID := some server.id
  task := type
  data := none
  cmd := none
  output := none
  status := .waiting

/-- How each of the `addServer...` functions makes its task: the types that must not be
active, its own among them, the error when one is, and a check of the server after it. -/
structure Addition where
  type : DaemonTaskType
  exclusive : List DaemonTaskType
  own : type ∈ exclusive
  refusal : ControlError
  check : Server → Except ControlError Unit

def addServerTask (addition : Addition) (server : Server) (runAftID : Option Nat) :
    Control Nat := do
  if ← workingTasksExist server addition.exclusive then throw addition.refusal
  ensure (addition.check server)
  let created ← perform (.now addition.type)
  let updated ← perform (.now addition.type)
  let task ← withMessage "failed to dispatch daemon task" <|
    dispatchOrSaveTask service (newTask server addition.type runAftID created updated)
  pure task.id

def unchecked (_ : Server) : Except ControlError Unit := .ok ()

def startAddition : Addition where
  type := .serverStart
  exclusive := [.serverStart]
  own := mem_singleton_self _
  refusal := .taskAlreadyExists "server start"
  check := serverCommandCorrectOrFail

def stopAddition : Addition where
  type := .serverStop
  exclusive := [.serverStop]
  own := mem_singleton_self _
  refusal := .taskAlreadyExists "server stop"
  check := unchecked

def restartAddition : Addition where
  type := .serverRestart
  exclusive := [.serverRestart]
  own := mem_singleton_self _
  refusal := .taskAlreadyExists "server restart"
  check := serverCommandCorrectOrFail

def installAddition : Addition where
  type := .serverInstall
  exclusive := [.serverUpdate, .serverInstall]
  own := mem_cons_of_mem _ mem_cons_self
  refusal := .serverUpdateInstallInProgress
  check := unchecked

def deleteAddition : Addition where
  type := .serverDelete
  exclusive := [.serverDelete]
  own := mem_singleton_self _
  refusal := .taskAlreadyExists "server delete"
  check := unchecked

def runAfter (taskID : Nat) : Option Nat := if 0 < taskID then some taskID else none

section

variable (server : Server)

/-- The only one of the functions that refers to a task zero. -/
def addServerStart (runAftID : Nat) : Control Nat :=
  addServerTask service startAddition server (some runAftID)

def addServerStop (runAftID : Nat) : Control Nat :=
  addServerTask service stopAddition server (runAfter runAftID)

def addServerRestart (runAftID : Nat) : Control Nat :=
  addServerTask service restartAddition server (runAfter runAftID)

def addServerInstall (runAftID : Nat) : Control Nat :=
  addServerTask service installAddition server (runAfter runAftID)

def addServerDelete (runAftID : Nat) : Control Nat :=
  addServerTask service deleteAddition server (runAfter runAftID)

end

def autostartSettingKey : String := "autostart"

def autostartCurrentSettingKey : String := "autostart_current"

def getSetting (serverID : Nat) (settingName : String) : Control (Option ServerSetting) := do
  let settings ← raise (← perform (.findSetting serverID settingName))
  pure settings.head?

def updateAutostartCurrent (serverID : Nat) (value : Bool) : Control Unit := do
  let current ← withMessage "failed to get autostart_current setting" <|
    getSetting serverID autostartCurrentSettingKey
  let setting : ServerSetting :=
    match current with
    | none => ⟨0, autostartCurrentSettingKey, serverID, .bool value⟩
    | some setting => { setting with value := .bool value }
  withMessage "failed to save autostart_current setting" do
    raise (← perform (.saveSetting setting))

def updateAutostartCurrentIfEnabled (serverID : Nat) (value : Bool) : Control Unit := do
  let autostart ← withMessage "failed to get autostart setting" <|
    getSetting serverID autostartSettingKey
  if (autostart.bind fun setting => setting.value.toBool) = some true then
    updateAutostartCurrent serverID value

def dispatchPreEvent (event : PluginEventType) (server : Server) : Control Unit := do
  if service.pluginDispatcher then
    match ← perform (.dispatchServerEvent event server) with
    | some cancellation => throw (.cancelledByPlugin cancellation)
    | none => pure ()

def dispatchPostEvent (event : PluginEventType) (server : Server) : Control Unit := do
  if service.pluginDispatcher then
    let _ ← perform (.dispatchServerEvent event server)

section

variable (server : Server)

def start : Control Nat := do
  dispatchPreEvent service .preStart server
  updateAutostartCurrentIfEnabled server.id true
  let taskID ← addServerStart service server 0
  dispatchPostEvent service .postStart server
  pure taskID

def stop : Control Nat := do
  dispatchPreEvent service .preStop server
  updateAutostartCurrent server.id false
  let taskID ← addServerStop service server 0
  dispatchPostEvent service .postStop server
  pure taskID

def restart : Control Nat := do
  dispatchPreEvent service .preRestart server
  updateAutostartCurrentIfEnabled server.id true
  let taskID ← addServerRestart service server 0
  dispatchPostEvent service .postRestart server
  pure taskID

def endTransaction {α : Type} : Except ControlError α → Control α
  | .error error => do
      perform .rollback
      throw error
  | .ok value => do
      raise (← perform .commit)
      pure value

def inTransaction {α : Type} (body : Control α) : Control α := do
  raise (← perform .beginTransaction)
  endTransaction (← body.attempt)

def reinstallTypes : List DaemonTaskType :=
  [.serverStart, .serverStop, .serverRestart, .serverUpdate, .serverInstall, .serverDelete]

def addReinstall : Control Nat := do
  let stopTaskID ← withMessage "failed to create stop task" <|
    addServerStop service server 0
  let deleteTaskID ← withMessage "failed to create delete task" <|
    addServerDelete service server stopTaskID
  withMessage "failed to create install task" <| addServerInstall service server deleteTaskID

def reinstall : Control Nat := do
  dispatchPreEvent service .preReinstall server
  if ← workingTasksExist server reinstallTypes then throw .anotherTaskAlreadyExists
  let installTaskID ← inTransaction (addReinstall service server)
  dispatchPostEvent service .postReinstall server
  pure installTaskID

end

inductive DaemonMessage where
  | serverConfigUpdate (serverID : Option Nat)
  | task (task : DaemonTask)

structure ControlState where
  tasks : DaemonTaskRepository
  settings : ServerSettingRepository
  sent : List DaemonMessage
  saved : DaemonTaskRepository

/-- What a call meets: a fault is the text of the error that it returns. -/
structure ControlInput where
  now : Int
  fault : Option String
  cancelled : Option Cancellation
  serverFound : Bool

inductive TransactionManager where
  | nil
  | database

def ControlInput.attempt {α : Type} (input : ControlInput) (state : ControlState)
    (success : ControlState × α) : ControlState × Except String α :=
  match input.fault with
  | some text => (state, .error text)
  | none => (success.1, .ok success.2)

theorem attempt_of_fault {input : ControlInput} (met : input.fault = some text) :
    input.attempt state success = (state, .error text) := by
  rw [ControlInput.attempt, met]

theorem attempt_of_none {input : ControlInput} (met : input.fault = none) :
    input.attempt state success = (success.1, .ok success.2) := by
  rw [ControlInput.attempt, met]

def handle (manager : TransactionManager) (input : ControlInput) (state : ControlState) :
    (op : ControlOp) → ControlState × op.Answer
  | .dispatchServerEvent _ _ => (state, input.cancelled)
  | .findSetting serverID name => input.attempt state (state, state.settings.find serverID name)
  | .saveSetting setting =>
    input.attempt state ({ state with settings := state.settings.save setting }, ())
  | .existsTask filter => input.attempt state (state, state.tasks.existsBy filter)
  | .now _ => (state, input.now)
  | .saveTask task =>
    input.attempt state
      ({ state with tasks := state.tasks.save input.now task }, state.tasks.assigned input.now task)
  | .findServer _ => (state, input.fault.isNone && input.serverFound)
  | .sendConfigUpdate task =>
    input.attempt state
      ({ state with sent := state.sent ++ [.serverConfigUpdate task.serverID] }, ())
  | .sendTask task => input.attempt state ({ state with sent := state.sent ++ [.task task] }, ())
  | .beginTransaction =>
    match manager with
    | .nil => (state, .ok ())
    | .database => input.attempt state ({ state with saved := state.tasks }, ())
  | .commit =>
    match manager with
    | .nil => (state, .ok ())
    | .database => input.attempt { state with tasks := state.saved } (state, ())
  | .rollback =>
    match manager with
    | .nil => (state, ())
    | .database => ({ state with tasks := state.saved }, ())

end ShadowPanel.Servers
