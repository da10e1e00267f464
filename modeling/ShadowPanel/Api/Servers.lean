import ShadowPanel.Api.Errors
import ShadowPanel.Repositories.Servers
import ShadowPanel.Validation

namespace ShadowPanel.Api

open Data Domain Filters Repositories Validation

/-! The update of a server by an administrator, of `internal/api/servers/putserver`, and
the status report of a daemon, of `internal/api/daemonapi/servers/patchservers`, as
programs of the repository calls that they make. -/

inductive ServerOp where
  | findServers (filter : FindServer)
  | findNodes (id : Nat)
  | findGames (code : String)
  | findGameMods (id : Nat)
  | save (server : Server)
  | saveBulk (servers : List Server)
  | pushServerConfig (serverID : Nat)

/-- Of nodes and games only whether one is found is used, and of the mods the game of
the first one. -/
abbrev ServerOp.Answer : ServerOp → Type
  | .findServers _ => Except String (List Server)
  | .findNodes _ | .findGames _ => Except String Bool
  | .findGameMods _ => Except String (Option String)
  | .save _ | .saveBulk _ => Except String Unit
  | .pushServerConfig _ => Unit

abbrev ServerProgram := Program ServerOp ServerOp.Answer HandlerError

def onServers (op : ServerOp) : ServerProgram op.Answer := Program.perform op

def maxNameLength : Nat := 128

def isPort (port : Int) : Bool := 1 ≤ port && port ≤ 65535

structure UpdateServerInput where
  enabled : Option Bool
  installed : Option Int
  blocked : Option Bool
  name : String
  gameID : String
  dsID : Int
  gameModID : Int
  serverIP : String
  serverPort : Int
  queryPort : Option Int
  rconPort : Option Int
  rcon : Option String
  startCommand : Option String
  dir : Option String
  suUser : Option String
  vars : Option (List (String × String))
  cpuLimit : Option Int
  ramLimit : Option Int
  deriving Inhabited

namespace UpdateServerInput

variable (input : UpdateServerInput)

def checks : List (Bool × String) :=
  [(input.name != "", "name is required"),
    (input.name.utf8ByteSize ≤ maxNameLength, "name must not exceed 128 characters"),
    (input.gameID != "", "game_id is required"),
    (0 < input.dsID, "ds_id is required"),
    (0 < input.gameModID, "game_mod_id is required"),
    (input.serverIP != "", "server_ip is required"),
    (isValidIPOrHostname input.serverIP, "server_ip is not a valid IP address or hostname"),
    -- no value is read as zero
    ((ServerInstalledStatus.ofInt? (input.installed.getD 0)).isSome,
      "installed has an invalid value, must be 0, 1 or 2"),
    (isPort input.serverPort, "server_port must be between 1 and 65535"),
    (input.queryPort.all isPort, "query_port must be between 1 and 65535"),
    (input.rconPort.all isPort, "rcon_port must be between 1 and 65535"),
    (input.cpuLimit.all (0 ≤ ·), "cpu_limit must be >= 0"),
    (input.ramLimit.all (0 ≤ ·), "ram_limit must be >= 0"),
    (input.dir.all fun dir => dir == "" || isRelativeServerPath dir,
      "dir must be a relative path without drive letter or '..' segments")]

def validate : Except HandlerError Unit :=
  match input.checks.find? fun check => !check.1 with
  | some check => .error (.validation check.2)
  | none => .ok ()

def newInstalled : Option ServerInstalledStatus := input.installed.bind ServerInstalledStatus.ofInt?

section

variable (server : Server)

def apply : Server :=
  { server with
    name := input.name
    enabled := input.enabled.getD server.enabled
    installed := input.newInstalled.getD server.installed
    blocked := input.blocked.getD server.blocked
    gameID := input.gameID
    dsID := input.dsID.toNat
    gameModID := input.gameModID.toNat
    serverIP := input.serverIP
    serverPort := input.serverPort
    queryPort := input.queryPort <|> server.queryPort
    rconPort := input.rconPort <|> server.rconPort
    rcon := input.rcon <|> server.rcon
    startCommand := input.startCommand <|> server.startCommand
    dir := input.dir.getD server.dir
    suUser := input.suUser <|> server.suUser
    vars := input.vars.getD server.vars
    cpuLimit := input.cpuLimit <|> server.cpuLimit
    ramLimit := input.ramLimit <|> server.ramLimit }

def prepareNode : ServerProgram Unit := do
  if input.dsID.toNat ≠ server.dsID then
    let found ← orFail "failed to find node" (← onServers (.findNodes input.dsID.toNat))
    require (.internal "node not found") found

def prepareGame : ServerProgram Unit := do
  if input.gameID ≠ server.gameID then
    let found ← orFail "failed to find game" (← onServers (.findGames input.gameID))
    require (.internal "game not found") found

def prepareGameMod : ServerProgram Unit := do
  if input.gameID ≠ server.gameID ∨ input.gameModID.toNat ≠ server.gameModID then
    let gameCode ← orFail "failed to find game mod"
      (← onServers (.findGameMods input.gameModID.toNat))
    match gameCode with
    | none => throw (.internal "game mod not found")
    | some gameCode =>
      require (.validation "game mod does not belong to the specified game")
        (gameCode == input.gameID)

def prepareUpdate : ServerProgram Unit := do
  input.prepareNode server
  input.prepareGame server
  input.prepareGameMod server

end

end UpdateServerInput

/-- `body` is what the body decodes to, which is read only when the server is found. -/
def putServer (configPusher : Bool) (serverID : Nat) (body : Except String UpdateServerInput) :
    ServerProgram Unit := do
  let servers ← orFail "failed to find server"
    (← onServers (.findServers (findServerByIDs [serverID])))
  match servers with
  | [] => throw ⟨404, "server not found"⟩
  | server :: _ =>
    match body with
    | .error text => throw ⟨400, "invalid request body: " ++ text⟩
    | .ok input =>
      orThrow (input.validate.mapError (.withMessage "validation failed"))
      input.prepareUpdate server
      orFail "failed to save server" (← onServers (.save (input.apply server)))
      if configPusher then onServers (.pushServerConfig server.id)

structure BulkUpdateServerInput where
  id : Nat
  installed : Option Int
  processActive : Option Bool
  lastProcessCheck : Option Int

namespace BulkUpdateServerInput

variable (input : BulkUpdateServerInput)

def validate : Except HandlerError Unit :=
  if input.id = 0 then .error (.validation "server ID is required")
  else if input.installed.any fun installed => installed < 0 || 3 ≤ installed then
    .error (.validation "invalid installed status")
  else .ok ()

def newInstalled : Option ServerInstalledStatus := input.installed.bind ServerInstalledStatus.ofInt?

def update (server : Server) : Server :=
  { server with
    installed := input.newInstalled.getD server.installed
    processActive := input.processActive.getD server.processActive
    lastProcessCheck := input.lastProcessCheck <|> server.lastProcessCheck }

end BulkUpdateServerInput

def validateInputs : List BulkUpdateServerInput → Except HandlerError Unit
  | [] => .ok ()
  | input :: rest =>
    match input.validate with
    | .error error => .error error
    | .ok _ => validateInputs rest

/-- The servers are the values of the map, so that no two of them have the same
number. -/
def updateServers (servers : List Server) (inputs : List BulkUpdateServerInput) : List Server :=
  inputs.foldl
    (fun servers input =>
      servers.map fun server => if server.id = input.id then input.update server else server)
    servers

def patchServers (order : Reordering Server) (session : Option Nat)
    (body : Except String (List BulkUpdateServerInput)) : ServerProgram Unit := do
  match session with
  | none => throw ⟨401, "daemon session not found"⟩
  | some nodeID =>
    match body with
    | .error text => throw ⟨400, "invalid request: " ++ text⟩
    | .ok inputs =>
      orThrow ((validateInputs inputs).mapError
        fun error => .wrap 400 (.withMessage "invalid input" error))
      if inputs.isEmpty then pure ()
      else
        let servers ← orFail "failed to find servers"
          (← onServers (.findServers ⟨inputs.map BulkUpdateServerInput.id, [nodeID], true⟩))
        orFail "failed to update servers"
          (← onServers (.saveBulk (order.apply (updateServers servers inputs))))

end ShadowPanel.Api
