import ShadowPanel.Data.OwnedTable
import ShadowPanel.Repositories.Servers
import ShadowPanel.Tasks.Handler

namespace ShadowPanel.Grpc

open Data Domain Filters Repositories Tasks

/-! The handlers that the gateway gives daemon messages to, as in
`internal/grpc/handlers`. -/

structure TaskOutput where
  taskID : Nat
  outputChunk : String

structure TaskHandler where
  daemonTaskRepo : DaemonTaskRepository
  serverRepo : ServerRepository

def installation (servers : ServerRepository) (task : DaemonTask) :
    Option (Server × ServerInstalledStatus) := do
  let serverID ← task.serverID
  let installedStatus ← resolveInstalledStatus task.task task.status
  let server ← (servers.find (findServerByIDs [serverID]) none).head?
  some (server, installedStatus)

def updateServerInstalledStatus (servers : ServerRepository) (now : Int) (task : DaemonTask) :
    ServerRepository :=
  match installation servers task with
  | none => servers
  | some (server, installedStatus) => servers.save now { server with installed := installedStatus }

theorem get_of_installation (found : installation servers task = some (server, installedStatus)) :
    servers.get server.id = some server := by
  simp only [installation, Option.bind_eq_bind, Option.bind_eq_some_iff,
    ServerRepository.find_byIDs] at found
  obtain ⟨serverID, _, _, _, _, listed, rfl, _⟩ := found
  rw [Option.head?_toList, Option.filter_eq_some_iff] at listed
  rw [(ServerRepository.mem_of_get listed.1).2]
  exact listed.1

namespace TaskHandler

variable (handler : TaskHandler)

/-- The node that sends the report is only logged. -/
def handleTaskStatusUpdate (now : Int) (update : TaskStatusUpdate) : TaskHandler where
  daemonTaskRepo := Tasks.handleTaskStatusUpdate handler.daemonTaskRepo now update
  serverRepo :=
    match reportedTask handler.daemonTaskRepo update with
    | none => handler.serverRepo
    | some task => updateServerInstalledStatus handler.serverRepo now task

def handleTaskOutput (output : TaskOutput) : TaskHandler :=
  if output.outputChunk.isEmpty then handler
  else
    { handler with
      daemonTaskRepo := handler.daemonTaskRepo.appendOutput output.taskID output.outputChunk }

def handleServerStatuses (now : Int) (nodeID : Nat) (statuses : List (Nat × Bool)) :
    TaskHandler where
  daemonTaskRepo := handler.daemonTaskRepo
  serverRepo := handler.serverRepo.updateServerStatuses now nodeID
    (statuses.map fun status => ⟨status.1, status.2, now⟩)

end TaskHandler

structure MetricSeries where
  name : String
  labels : List (String × String)

structure CommandResult where
  commandID : String
  exitCode : Int
  output : String
  error : String
  deriving DecidableEq

inductive Published where
  | metricsLive (nodeID : Nat) (series : List MetricSeries)
  | metricsReply (instanceID requestID : String) (nodeID : Nat) (series : List MetricSeries)
  | consoleOutput (serverID : Nat) (commandID chunk : String)
  | consoleResult (serverID : Nat) (commandID : String) (exitCode : Int) (error : String)
  | attachStarted (sessionID : String) (serverID : Nat)
  | attachOutput (sessionID data : String)
  | attachClosed (sessionID reason : String) (exitCode : Int)

structure MetricsWaiter where
  nodeID : Nat
  remoteInstanceID : String
  deriving DecidableEq

structure MetricsHandler where waiters : String → Option MetricsWaiter

namespace MetricsHandler

variable (handler : MetricsHandler)

def registerRemoteWaiter (requestID : String) (nodeID : Nat) (requesterInstanceID : String) :
    MetricsHandler where
  waiters := Function.update handler.waiters requestID (some ⟨nodeID, requesterInstanceID⟩)

def serverLabel (series : MetricSeries) : Option String := series.labels.lookup "server_id"

def filterUntrustedSeries (servers : ServerRepository) (nodeID : Nat) (series : List MetricSeries) :
    List MetricSeries :=
  if series.any fun one => (serverLabel one).isSome then
    let allowed := (servers.find (findServerByNodeIDs [nodeID]) none).map fun server =>
      toString server.id
    series.filter fun one => (serverLabel one).all allowed.contains
  else series

def replies (servers : ServerRepository) (nodeID : Nat) (requestID : String)
    (waiter : MetricsWaiter) (series : List MetricSeries) : List Published :=
  match filterUntrustedSeries servers nodeID series with
  | [] => []
  | kept =>
    if waiter.remoteInstanceID = "" then [.metricsLive nodeID kept]
    else [.metricsReply waiter.remoteInstanceID requestID nodeID kept]

/-- The node of the waiter is not compared with the node that answers. -/
def handleMetricsResponse (servers : ServerRepository) (nodeID : Nat) (requestID : String)
    (series : List MetricSeries) : MetricsHandler × List Published :=
  match handler.waiters requestID with
  | none => (handler, [])
  | some waiter =>
    (⟨Function.update handler.waiters requestID none⟩,
      replies servers nodeID requestID waiter series)

end MetricsHandler

/-- A channel with room for one result.  The node that the command was sent to
is not stored by the panel. -/
structure PendingCommand where
  openedFor : Nat
  buffered : Option CommandResult
  deriving DecidableEq

/-- A server whose console, or terminal, waits for what a daemon sends; `openedFor`
is the node of the server, which the panel does not store here. -/
structure Tracked where
  openedFor : Nat
  serverID : Nat
  deriving DecidableEq

structure CommandHandler where
  pendingCommands : String → Option PendingCommand
  commandServers : String → Option Tracked

namespace CommandHandler

variable (handler : CommandHandler)

def registerPendingCommand (nodeID : Nat) (commandID : String) : CommandHandler :=
  { handler with
    pendingCommands := Function.update handler.pendingCommands commandID (some ⟨nodeID, none⟩) }

def trackCommandServer (nodeID : Nat) (commandID : String) (serverID : Nat) : CommandHandler :=
  { handler with
    commandServers := Function.update handler.commandServers commandID (some ⟨nodeID, serverID⟩) }

def handleCommandOutput (commandID chunk : String) : List Published :=
  match handler.commandServers commandID with
  | none => []
  | some tracked => [.consoleOutput tracked.serverID commandID chunk]

def offer (result : CommandResult) (command : PendingCommand) : PendingCommand :=
  { command with buffered := some (command.buffered.getD result) }

def handleCommandResult (result : CommandResult) : CommandHandler × List Published :=
  (⟨Function.update handler.pendingCommands result.commandID
      ((handler.pendingCommands result.commandID).map (offer result)),
    Function.update handler.commandServers result.commandID none⟩,
    match handler.commandServers result.commandID with
    | none => []
    | some tracked =>
      [.consoleResult tracked.serverID result.commandID result.exitCode result.error])

end CommandHandler

structure AttachHandler where sessions : String → Option Tracked

namespace AttachHandler

variable (handler : AttachHandler)

def trackAttachSession (nodeID : Nat) (sessionID : String) (serverID : Nat) : AttachHandler where
  sessions := Function.update handler.sessions sessionID (some ⟨nodeID, serverID⟩)

def handleAttachStarted (sessionID : String) (serverID : Nat) : List Published :=
  [.attachStarted sessionID serverID]

def handleAttachOutput (sessionID data : String) : List Published := [.attachOutput sessionID data]

def handleAttachClosed (sessionID reason : String) (exitCode : Int) :
    AttachHandler × List Published :=
  (⟨Function.update handler.sessions sessionID none⟩, [.attachClosed sessionID reason exitCode])

end AttachHandler

/-- What `processMessage` works on; `pendingReqs` are the requests that wait at
the session of each node. -/
structure DaemonHandlers where
  tasks : TaskHandler
  metrics : MetricsHandler
  commands : CommandHandler
  attach : AttachHandler
  pendingReqs : Nat → String → Bool

/-- `response` stands for the seven answers that only resolve a request of the
daemon's own session. -/
inductive DaemonMessage where
  | heartbeat
  | taskStatus (update : TaskStatusUpdate)
  | taskOutput (output : TaskOutput)
  | commandOutput (commandID outputChunk : String)
  | commandResult (requestID : String) (result : CommandResult)
  | serverStatuses (statuses : List (Nat × Bool))
  | response (requestID : String)
  | attachStarted (sessionID : String) (serverID : Nat)
  | attachOutput (sessionID data : String)
  | attachClosed (sessionID reason : String) (exitCode : Int)
  | metricsResponse (requestID : String) (series : List MetricSeries)
  | unknown

namespace DaemonHandlers

variable (handlers : DaemonHandlers)

def resolvePendingRequest (nodeID : Nat) (requestID : String) : Nat → String → Bool :=
  Function.update handlers.pendingReqs nodeID
    (Function.update (handlers.pendingReqs nodeID) requestID false)

def processMessage (now : Int) (nodeID : Nat) : DaemonMessage → DaemonHandlers × List Published
  | .heartbeat => (handlers, [])
  | .taskStatus update =>
    ({ handlers with tasks := handlers.tasks.handleTaskStatusUpdate now update }, [])
  | .taskOutput output => ({ handlers with tasks := handlers.tasks.handleTaskOutput output }, [])
  | .commandOutput commandID outputChunk =>
    (handlers, handlers.commands.handleCommandOutput commandID outputChunk)
  | .commandResult requestID result =>
    ({ handlers with
        commands := (handlers.commands.handleCommandResult result).1
        pendingReqs :=
          if requestID = "" then handlers.pendingReqs
          else handlers.resolvePendingRequest nodeID requestID },
      (handlers.commands.handleCommandResult result).2)
  | .serverStatuses statuses =>
    ({ handlers with tasks := handlers.tasks.handleServerStatuses now nodeID statuses }, [])
  | .response requestID =>
    ({ handlers with pendingReqs := handlers.resolvePendingRequest nodeID requestID }, [])
  | .attachStarted sessionID serverID =>
    (handlers, AttachHandler.handleAttachStarted sessionID serverID)
  | .attachOutput sessionID data => (handlers, AttachHandler.handleAttachOutput sessionID data)
  | .attachClosed sessionID reason exitCode =>
    ({ handlers with attach := (handlers.attach.handleAttachClosed sessionID reason exitCode).1 },
      (handlers.attach.handleAttachClosed sessionID reason exitCode).2)
  | .metricsResponse requestID series =>
    ({ handlers with
        metrics := (handlers.metrics.handleMetricsResponse handlers.tasks.serverRepo nodeID
          requestID series).1 },
      (handlers.metrics.handleMetricsResponse handlers.tasks.serverRepo nodeID requestID series).2)
  | .unknown => (handlers, [])

end DaemonHandlers

end ShadowPanel.Grpc
