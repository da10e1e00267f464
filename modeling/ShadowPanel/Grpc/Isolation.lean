import ShadowPanel.Grpc.Handlers

namespace ShadowPanel.Grpc

open Data Domain Filters Repositories Tasks DaemonTaskRepository List

/-! What the message of one node leaves of the tasks, servers and waiters of the
other nodes. -/

def taskOutside (nodeID : Nat) (task : DaemonTask) : Option DaemonTask :=
  if task.dedicatedServerID = nodeID then none else some task

def installedOutside (nodeID : Nat) (server : Server) : Option (Nat × ServerInstalledStatus) :=
  if server.dsID = nodeID then none else some (server.id, server.installed)

structure TaskHandler.OthersKept (nodeID : Nat) (before after : TaskHandler) : Prop where
  tasks : after.daemonTaskRepo.rows.filterMap (taskOutside nodeID) =
    before.daemonTaskRepo.rows.filterMap (taskOutside nodeID)
  installed : after.serverRepo.rows.filterMap (installedOutside nodeID) =
    before.serverRepo.rows.filterMap (installedOutside nodeID)

namespace TaskHandler

variable {now : Int}

section

variable (handler : TaskHandler)

theorem OthersKept.refl : OthersKept nodeID handler handler := ⟨rfl, rfl⟩

def OwnTask (nodeID : Nat) (now : Int) (update : TaskStatusUpdate) (task : DaemonTask) : Prop :=
  task.dedicatedServerID = nodeID ∨ task.status = update.reported ∧ task.updatedAt = some now

def OwnServer (nodeID : Nat) (servers : ServerRepository) (task : DaemonTask) : Prop :=
  ∀ server installedStatus, installation servers task = some (server, installedStatus) →
    server.dsID = nodeID ∨ server.installed = installedStatus

private theorem taskOutside_reported_iff (task : DaemonTask) (update : TaskStatusUpdate) :
    taskOutside nodeID { task with status := update.reported, updatedAt := some now } =
        taskOutside nodeID task ↔ OwnTask nodeID now update task := by
  by_cases own : task.dedicatedServerID = nodeID
  · simp [taskOutside, OwnTask, own]
  · obtain ⟨⟩ := task
    simp only [taskOutside, OwnTask, own, if_false, false_or, Option.some.injEq,
      DaemonTask.mk.injEq, true_and]
    exact ⟨fun both => ⟨both.2.symm, both.1.symm⟩, fun both => ⟨both.2.symm, both.1.symm⟩⟩

private theorem handleTaskStatusUpdate_tasks_iff (now : Int) (nodeID : Nat)
    (store : DaemonTaskRepository) (update : TaskStatusUpdate) :
    (Tasks.handleTaskStatusUpdate store now update).rows.filterMap (taskOutside nodeID) =
        store.rows.filterMap (taskOutside nodeID) ↔
      ∀ task, store.get update.taskID = some task → OwnTask nodeID now update task := by
  cases found : store.get update.taskID with
  | none =>
    have ignored : Tasks.handleTaskStatusUpdate store now update = store := by
      rw [Tasks.handleTaskStatusUpdate, reportedTask_eq, found]
      rfl
    simp [ignored]
  | some task =>
    rw [(replaced_handleTaskStatusUpdate found).filterMap_eq_iff, taskOutside_reported_iff]
    simp

private theorem installedOutside_iff (server : Server) (installedStatus : ServerInstalledStatus) :
    installedOutside nodeID { server with installed := installedStatus, updatedAt := some now } =
        installedOutside nodeID server ↔
      server.dsID = nodeID ∨ server.installed = installedStatus := by
  by_cases own : server.dsID = nodeID
  · simp [installedOutside, own]
  · simp [installedOutside, own, eq_comm]

private theorem updateServerInstalledStatus_iff (now : Int) (nodeID : Nat)
    (servers : ServerRepository) (task : DaemonTask) :
    (updateServerInstalledStatus servers now task).rows.filterMap (installedOutside nodeID) =
        servers.rows.filterMap (installedOutside nodeID) ↔
      OwnServer nodeID servers task := by
  unfold updateServerInstalledStatus OwnServer
  cases found : installation servers task with
  | none => simp
  | some change =>
    obtain ⟨server, installedStatus⟩ := change
    have replaced := ServerRepository.replaced_save now (get_of_installation found) installedStatus
    rw [replaced.filterMap_eq_iff, installedOutside_iff]
    simp

def OwnReport (now : Int) (nodeID : Nat) (update : TaskStatusUpdate) : Prop :=
  ∀ task, handler.daemonTaskRepo.get update.taskID = some task →
    OwnTask nodeID now update task ∧
      OwnServer nodeID handler.serverRepo { task with status := update.reported }

def OwnOutput (nodeID : Nat) (output : TaskOutput) : Prop :=
  output.outputChunk = "" ∨
    ∀ task, handler.daemonTaskRepo.get output.taskID = some task → task.dedicatedServerID = nodeID

private theorem handleTaskStatusUpdate_kept_iff (update : TaskStatusUpdate) :
    OthersKept nodeID handler (handler.handleTaskStatusUpdate now update) ↔
      handler.OwnReport now nodeID update := by
  have tasks := handleTaskStatusUpdate_tasks_iff now nodeID handler.daemonTaskRepo update
  cases found : handler.daemonTaskRepo.get update.taskID with
  | none =>
    have servers : (handler.handleTaskStatusUpdate now update).serverRepo = handler.serverRepo := by
      rw [handleTaskStatusUpdate, reportedTask_eq, found]
      rfl
    constructor
    · intro kept task stored
      rw [found] at stored
      cases stored
    · intro own
      refine ⟨tasks.mpr ?_, by rw [servers]⟩
      intro task stored
      exact (own task stored).1
  | some task =>
    have servers : (handler.handleTaskStatusUpdate now update).serverRepo =
        updateServerInstalledStatus handler.serverRepo now
          { task with status := update.reported } := by
      rw [handleTaskStatusUpdate, reportedTask_eq, found]
      rfl
    have installed := updateServerInstalledStatus_iff now nodeID handler.serverRepo
      { task with status := update.reported }
    rw [← servers] at installed
    constructor
    · intro kept other stored
      have same : task = other := Option.some.inj (found.symm.trans stored)
      subst same
      exact ⟨tasks.mp kept.tasks task found, installed.mp kept.installed⟩
    · intro own
      obtain ⟨ownTask, ownServer⟩ := own task found
      refine ⟨tasks.mpr ?_, installed.mpr ownServer⟩
      intro other stored
      exact (own other stored).1

private theorem taskOutside_extend_iff (nonempty : chunk ≠ "") (task : DaemonTask) :
    taskOutside nodeID (DaemonTaskRepository.extend chunk task) = taskOutside nodeID task ↔
      task.dedicatedServerID = nodeID := by
  by_cases own : task.dedicatedServerID = nodeID
  · simp [taskOutside, extend, own]
  · have longer : extend chunk task ≠ task := by
      intro same
      have output : some (task.output.getD "" ++ chunk) = task.output :=
        congrArg DaemonTask.output same
      cases before : task.output with
      | none => simp [before] at output
      | some text =>
        rw [before, Option.getD_some, Option.some.injEq] at output
        have length := congrArg String.length output
        rw [String.length_append] at length
        exact nonempty (String.length_eq_zero_iff.mp (by omega))
    simp [taskOutside, own, longer]

private theorem handleTaskOutput_kept_iff (output : TaskOutput) :
    OthersKept nodeID handler (handler.handleTaskOutput output) ↔
      handler.OwnOutput nodeID output := by
  unfold handleTaskOutput OwnOutput
  by_cases empty : output.outputChunk = ""
  · simp [empty, OthersKept.refl]
  · rw [if_neg (by simpa using empty), or_iff_right empty]
    cases found : handler.daemonTaskRepo.get output.taskID with
    | none =>
      have rows := rows_appendOutput_of_none output.outputChunk found
      have kept : OthersKept nodeID handler
          { handler with
            daemonTaskRepo :=
              handler.daemonTaskRepo.appendOutput output.taskID output.outputChunk } :=
        ⟨congrArg (filterMap (taskOutside nodeID)) rows, rfl⟩
      simp [kept]
    | some task =>
      have tasks :=
        (replaced_appendOutput output.outputChunk found).filterMap_eq_iff (taskOutside nodeID)
      rw [taskOutside_extend_iff empty] at tasks
      constructor
      · intro kept other same
        cases same
        exact tasks.mp kept.tasks
      · intro own
        exact ⟨tasks.mpr (own task rfl), rfl⟩

private theorem handleServerStatuses_kept (statuses : List (Nat × Bool)) :
    OthersKept nodeID handler (handler.handleServerStatuses now nodeID statuses) := by
  refine ⟨rfl, ServerRepository.filterMap_updateServerStatuses ?_ _⟩
  intro status row
  unfold ServerRepository.checked
  split <;> rfl

end

end TaskHandler

namespace DaemonMessage

def OwnTasks (handlers : DaemonHandlers) (now : Int) (nodeID : Nat) : DaemonMessage → Prop
  | .taskStatus update => handlers.tasks.OwnReport now nodeID update
  | .taskOutput output => handlers.tasks.OwnOutput nodeID output
  | _ => True

end DaemonMessage

/-- A daemon's message leaves the tasks and the installed servers of the other
nodes as they are just when it is about a task and a server of its own node. -/
theorem processMessage_keeps_other_nodes_iff (handlers : DaemonHandlers) (now : Int) (nodeID : Nat)
    (message : DaemonMessage) :
    TaskHandler.OthersKept nodeID handlers.tasks
        (handlers.processMessage now nodeID message).1.tasks ↔
      message.OwnTasks handlers now nodeID := by
  cases message with
  | taskStatus update => exact TaskHandler.handleTaskStatusUpdate_kept_iff handlers.tasks update
  | taskOutput output => exact TaskHandler.handleTaskOutput_kept_iff handlers.tasks output
  | serverStatuses statuses =>
    exact iff_of_true (TaskHandler.handleServerStatuses_kept handlers.tasks statuses) trivial
  | heartbeat | commandOutput | commandResult | response | attachStarted | attachOutput
  | attachClosed | metricsResponse | unknown =>
    exact iff_of_true (TaskHandler.OthersKept.refl handlers.tasks) trivial

def installationTask : DaemonTask where
  id := 1
  runAftID := none
  createdAt := some 10
  updatedAt := some 20
  dedicatedServerID := 2
  serverID := some 7
  task := .serverInstall
  data := none
  cmd := none
  output := none
  status := .working

def installingServer : Server :=
  { (default : Server) with
    id := 7
    dsID := 2
    installed := .installationInProg
    createdAt := some 10
    updatedAt := some 20 }

def installingHandlers : DaemonHandlers where
  tasks :=
    { daemonTaskRepo :=
        { rows := [installationTask]
          nextID := 1
          ordered := pairwise_singleton _ _
          numbered := forall_mem_singleton.mpr (Nat.succ_ne_zero 0) }
      serverRepo :=
        { rows := [installingServer]
          nextID := 7
          ordered := pairwise_singleton _ _
          numbered := forall_mem_singleton.mpr (Nat.succ_ne_zero 6) } }
  metrics := ⟨fun _ => none⟩
  commands := ⟨fun _ => none, fun _ => none⟩
  attach := ⟨fun _ => none⟩
  pendingReqs := fun _ _ => false

theorem foreign_report_not_kept : ¬TaskHandler.OthersKept 1 installingHandlers.tasks
    (installingHandlers.processMessage 30 1 (.taskStatus ⟨1, 4⟩)).1.tasks := by
  intro kept
  have changed : (installingHandlers.processMessage 30 1
        (.taskStatus ⟨1, 4⟩)).1.tasks.serverRepo.rows.filterMap (installedOutside 1) =
      [(7, .installed)] := by decide
  exact absurd (changed.symm.trans kept.installed) (by decide)

namespace Published

def request : Published → Option String
  | .metricsReply _ requestID _ _ => some requestID
  | _ => none

def command : Published → Option String
  | .consoleOutput _ commandID _ => some commandID
  | .consoleResult _ commandID _ _ => some commandID
  | _ => none

def session : Published → Option String
  | .attachStarted sessionID _ => some sessionID
  | .attachOutput sessionID _ => some sessionID
  | .attachClosed sessionID _ _ => some sessionID
  | _ => none

end Published

structure DaemonHandlers.WaitersKept (nodeID : Nat) (before after : DaemonHandlers)
    (published : List Published) : Prop where
  metrics : OthersKept MetricsWaiter.nodeID nodeID before.metrics.waiters after.metrics.waiters
    (published.filterMap Published.request)
  pending : OthersKept PendingCommand.openedFor nodeID before.commands.pendingCommands
    after.commands.pendingCommands []
  console : OthersKept Tracked.openedFor nodeID before.commands.commandServers
    after.commands.commandServers (published.filterMap Published.command)
  attached : OthersKept Tracked.openedFor nodeID before.attach.sessions after.attach.sessions
    (published.filterMap Published.session)
  requests : ∀ other ≠ nodeID, after.pendingReqs other = before.pendingReqs other

namespace DaemonMessage

/-- The ids of the message name nobody who waits for another node.  A command
whose channel is full takes no further result. -/
def OwnWaiters (handlers : DaemonHandlers) (nodeID : Nat) : DaemonMessage → Prop
  | .commandOutput commandID _ =>
    OwnEntry Tracked.openedFor nodeID handlers.commands.commandServers commandID
  | .commandResult _ result =>
    (∀ command, handlers.commands.pendingCommands result.commandID = some command →
      command.openedFor = nodeID ∨ command.buffered.isSome = true) ∧
      OwnEntry Tracked.openedFor nodeID handlers.commands.commandServers result.commandID
  | .attachStarted sessionID _ | .attachOutput sessionID _ | .attachClosed sessionID _ _ =>
    OwnEntry Tracked.openedFor nodeID handlers.attach.sessions sessionID
  | .metricsResponse requestID _ =>
    OwnEntry MetricsWaiter.nodeID nodeID handlers.metrics.waiters requestID
  | _ => True

end DaemonMessage

namespace MetricsHandler

variable {servers : ServerRepository} {nodeID : Nat}
  {requestID : String}

theorem addresses_of_mem_replies (member : event ∈ replies servers nodeID requestID waiter series) :
    event.command = none ∧ event.session = none ∧ ∀ addressed, event.request = some addressed →
      addressed = requestID := by
  unfold replies at member
  split at member
  · cases member
  · split at member
    all_goals
      cases mem_singleton.mp member
      simp [Published.command, Published.session, Published.request]

private theorem handleMetricsResponse_kept_iff (handler : MetricsHandler)
    (servers : ServerRepository) (nodeID : Nat) (requestID : String) (series : List MetricSeries) :
    OthersKept MetricsWaiter.nodeID nodeID handler.waiters
        (handler.handleMetricsResponse servers nodeID requestID series).1.waiters
        ((handler.handleMetricsResponse servers nodeID requestID series).2.filterMap
          Published.request) ↔
      OwnEntry MetricsWaiter.nodeID nodeID handler.waiters requestID := by
  unfold handleMetricsResponse
  cases found : handler.waiters requestID with
  | none =>
    refine iff_of_true othersKept_self ?_
    intro waiter stored
    rw [found] at stored
    cases stored
  | some waiter =>
    refine othersKept_erase_iff ?_
    intro addressed member
    obtain ⟨event, sent, reached⟩ := mem_filterMap.mp member
    exact (addresses_of_mem_replies sent).2.2 addressed reached

private theorem handleMetricsResponse_elsewhere (handler : MetricsHandler)
    (servers : ServerRepository) (nodeID : Nat) (requestID : String) (series : List MetricSeries) :
    (handler.handleMetricsResponse servers nodeID requestID series).2.filterMap
        Published.command = [] ∧
      (handler.handleMetricsResponse servers nodeID requestID series).2.filterMap
        Published.session = [] := by
  unfold handleMetricsResponse
  cases handler.waiters requestID with
  | none => exact ⟨rfl, rfl⟩
  | some waiter =>
    constructor <;> refine filterMap_eq_nil_iff.mpr ?_ <;> intro event sent
    · exact (addresses_of_mem_replies sent).1
    · exact (addresses_of_mem_replies sent).2.1

end MetricsHandler

namespace CommandHandler

section

variable (handler : CommandHandler)

private theorem handleCommandOutput_kept_iff (nodeID : Nat) (commandID chunk : String) :
    OthersKept Tracked.openedFor nodeID handler.commandServers handler.commandServers
        ((handler.handleCommandOutput commandID chunk).filterMap Published.command) ↔
      OwnEntry Tracked.openedFor nodeID handler.commandServers commandID := by
  unfold handleCommandOutput
  cases found : handler.commandServers commandID with
  | none =>
    refine iff_of_true othersKept_self ?_
    intro tracked stored
    rw [found] at stored
    cases stored
  | some tracked => exact othersKept_address_iff

private theorem handleCommandOutput_elsewhere (commandID chunk : String) :
    (handler.handleCommandOutput commandID chunk).filterMap Published.request = [] ∧
      (handler.handleCommandOutput commandID chunk).filterMap Published.session = [] := by
  unfold handleCommandOutput
  cases handler.commandServers commandID <;> exact ⟨rfl, rfl⟩

private theorem handleCommandResult_elsewhere (result : CommandResult) :
    (handler.handleCommandResult result).2.filterMap Published.request = [] ∧
      (handler.handleCommandResult result).2.filterMap Published.session = [] := by
  unfold handleCommandResult
  cases handler.commandServers result.commandID <;> exact ⟨rfl, rfl⟩

private theorem handleCommandResult_console_iff (nodeID : Nat) (result : CommandResult) :
    OthersKept Tracked.openedFor nodeID handler.commandServers
        (handler.handleCommandResult result).1.commandServers
        ((handler.handleCommandResult result).2.filterMap Published.command) ↔
      OwnEntry Tracked.openedFor nodeID handler.commandServers result.commandID := by
  refine othersKept_erase_iff ?_
  intro addressed member
  obtain ⟨event, sent, reached⟩ := mem_filterMap.mp member
  unfold handleCommandResult at sent
  cases found : handler.commandServers result.commandID with
  | none => simp [found] at sent
  | some tracked =>
    simp only [found, mem_singleton] at sent
    subst sent
    exact (Option.some.inj reached).symm

private theorem offer_eq_iff (result : CommandResult) (command : PendingCommand) :
    offer result command = command ↔ command.buffered.isSome = true := by
  obtain ⟨openedFor, buffered⟩ := command
  cases buffered <;> simp [offer]

private theorem handleCommandResult_pending_iff (nodeID : Nat) (result : CommandResult) :
    OthersKept PendingCommand.openedFor nodeID handler.pendingCommands
        (handler.handleCommandResult result).1.pendingCommands [] ↔
      ∀ command, handler.pendingCommands result.commandID = some command →
        command.openedFor = nodeID ∨ command.buffered.isSome = true := by
  constructor
  · intro kept command stored
    refine (Decidable.em (command.openedFor = nodeID)).imp_right fun foreign => ?_
    have unchanged := (kept result.commandID command stored foreign).1
    simp only [handleCommandResult, Function.update_self, stored, Option.map_some,
      Option.some.injEq] at unchanged
    exact (offer_eq_iff result command).mp unchanged
  · intro own commandID command stored foreign
    refine ⟨?_, not_mem_nil⟩
    by_cases same : commandID = result.commandID
    · subst same
      have full := (own command stored).resolve_left foreign
      simp only [handleCommandResult, Function.update_self, stored, Option.map_some,
        (offer_eq_iff result command).mpr full]
    · exact (Function.update_of_ne same _ _).trans stored

end

end CommandHandler

private theorem DaemonHandlers.resolvePendingRequest_of_ne {handlers : DaemonHandlers}
    (different : other ≠ nodeID) :
    handlers.resolvePendingRequest nodeID requestID other = handlers.pendingReqs other :=
  Function.update_of_ne different _ _

/-- A daemon's message touches nobody who waits for another node just when its
ids name none of those. -/
theorem processMessage_keeps_other_waiters_iff (handlers : DaemonHandlers) (now : Int)
    (nodeID : Nat) (message : DaemonMessage) :
    DaemonHandlers.WaitersKept nodeID handlers (handlers.processMessage now nodeID message).1
        (handlers.processMessage now nodeID message).2 ↔
      message.OwnWaiters handlers nodeID := by
  cases message with
  | commandOutput commandID outputChunk =>
    have console := handlers.commands.handleCommandOutput_kept_iff nodeID commandID outputChunk
    obtain ⟨noRequest, noSession⟩ :=
      handlers.commands.handleCommandOutput_elsewhere commandID outputChunk
    refine ⟨fun kept => console.mp kept.console, fun own =>
      ⟨?_, othersKept_self, console.mpr own, ?_, fun _ _ => rfl⟩⟩
    · exact noRequest ▸ othersKept_self
    · exact noSession ▸ othersKept_self
  | commandResult requestID result =>
    have pending := handlers.commands.handleCommandResult_pending_iff nodeID result
    have console := handlers.commands.handleCommandResult_console_iff nodeID result
    obtain ⟨noRequest, noSession⟩ := handlers.commands.handleCommandResult_elsewhere result
    refine ⟨fun kept => ⟨pending.mp kept.pending, console.mp kept.console⟩, fun own =>
      ⟨?_, pending.mpr own.1, console.mpr own.2, ?_, ?_⟩⟩
    · exact noRequest ▸ othersKept_self
    · exact noSession ▸ othersKept_self
    · intro other different
      simp only [DaemonHandlers.processMessage]
      split
      · rfl
      · exact DaemonHandlers.resolvePendingRequest_of_ne different
  | attachStarted sessionID serverID | attachOutput sessionID data =>
    refine ⟨fun kept => othersKept_address_iff.mp kept.attached, fun own =>
      ⟨othersKept_self, othersKept_self, othersKept_self, ?_, fun _ _ => rfl⟩⟩
    exact othersKept_address_iff.mpr own
  | attachClosed sessionID reason exitCode =>
    have attached : OthersKept Tracked.openedFor nodeID handlers.attach.sessions
          (Function.update handlers.attach.sessions sessionID none) [sessionID] ↔ _ :=
      othersKept_erase_iff fun other reached => mem_singleton.mp reached
    refine ⟨fun kept => attached.mp kept.attached, fun own =>
      ⟨othersKept_self, othersKept_self, othersKept_self, attached.mpr own, fun _ _ => rfl⟩⟩
  | metricsResponse requestID series =>
    have metrics := handlers.metrics.handleMetricsResponse_kept_iff handlers.tasks.serverRepo
      nodeID requestID series
    obtain ⟨noCommand, noSession⟩ := handlers.metrics.handleMetricsResponse_elsewhere
      handlers.tasks.serverRepo nodeID requestID series
    refine ⟨fun kept => metrics.mp kept.metrics, fun own =>
      ⟨metrics.mpr own, othersKept_self, ?_, ?_, fun _ _ => rfl⟩⟩
    · exact noCommand ▸ othersKept_self
    · exact noSession ▸ othersKept_self
  | response requestID =>
    exact iff_of_true ⟨othersKept_self, othersKept_self, othersKept_self, othersKept_self,
      fun _ => DaemonHandlers.resolvePendingRequest_of_ne⟩ trivial
  | heartbeat | taskStatus | taskOutput | serverStatuses | unknown =>
    exact iff_of_true ⟨othersKept_self, othersKept_self, othersKept_self, othersKept_self,
      fun _ _ => rfl⟩ trivial

def waitingHandlers : DaemonHandlers where
  tasks := ⟨.empty, .empty⟩
  metrics := MetricsHandler.registerRemoteWaiter ⟨fun _ => none⟩ "r" 2 "panel"
  commands := CommandHandler.registerPendingCommand
    (CommandHandler.trackCommandServer ⟨fun _ => none, fun _ => none⟩ 2 "c" 7) 2 "c"
  attach := AttachHandler.trackAttachSession ⟨fun _ => none⟩ 2 "s" 7
  pendingReqs := fun _ _ => false

def WaitingKept (message : DaemonMessage) : Prop :=
  DaemonHandlers.WaitersKept 1 waitingHandlers (waitingHandlers.processMessage 30 1 message).1
    (waitingHandlers.processMessage 30 1 message).2

theorem foreign_answers_not_kept : ¬WaitingKept (.metricsResponse "r" [⟨"cpu", []⟩]) ∧
    ¬WaitingKept (.commandResult "" ⟨"c", 0, "forged", ""⟩) ∧
    ¬WaitingKept (.attachOutput "s" "forged") ∧
    ¬WaitingKept (.attachClosed "s" "forged" 0) := by
  have waiter : waitingHandlers.metrics.waiters "r" = some ⟨2, "panel"⟩ := by decide
  have command : waitingHandlers.commands.pendingCommands "c" = some ⟨2, none⟩ := by decide
  have session : waitingHandlers.attach.sessions "s" = some ⟨2, 7⟩ := by decide
  refine ⟨?_, ?_, ?_, ?_⟩
  · intro kept
    exact absurd (kept.metrics "r" _ waiter (by decide)).1 (by decide)
  · intro kept
    exact absurd (kept.pending "c" _ command (by decide)).1 (by decide)
  · intro kept
    exact absurd (kept.attached "s" _ session (by decide)).2 (by decide)
  · intro kept
    exact absurd (kept.attached "s" _ session (by decide)).1 (by decide)

end ShadowPanel.Grpc
