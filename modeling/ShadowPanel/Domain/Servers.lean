import ShadowPanel.Domain.Tasks

namespace ShadowPanel.Domain

/-! The game servers of `internal/domain/server.go`.  A UUID is kept as its text. -/

inductive ServerInstalledStatus where
  | notInstalled
  | installed
  | installationInProg
  deriving DecidableEq, Inhabited

def ServerInstalledStatus.ofInt? : Int → Option ServerInstalledStatus
  | 0 => some .notInstalled
  | 1 => some .installed
  | 2 => some .installationInProg
  | _ => none

structure Server where
  id : Nat
  dsID : Nat
  installed : ServerInstalledStatus
  processActive : Bool
  lastProcessCheck : Option Int
  createdAt : Option Int
  updatedAt : Option Int
  deletedAt : Option Int
  uid : String
  enabled : Bool
  blocked : Bool
  name : String
  gameID : String
  gameModID : Nat
  expires : Option Int
  serverIP : String
  serverPort : Int
  queryPort : Option Int
  rconPort : Option Int
  rcon : Option String
  dir : String
  suUser : Option String
  cpuLimit : Option Int
  ramLimit : Option Int
  netLimit : Option Int
  startCommand : Option String
  stopCommand : Option String
  forceStopCommand : Option String
  restartCommand : Option String
  vars : List (String × String)
  metadata : List (String × String)
  deriving DecidableEq, Inhabited

/-- `resolveInstalledStatus` of `internal/grpc/handlers/task_handler.go`. -/
def resolveInstalledStatus : DaemonTaskType → DaemonTaskStatus → Option ServerInstalledStatus
  | .serverInstall, .working => some .installationInProg
  | .serverInstall, .success => some .installed
  | .serverInstall, .error => some .notInstalled
  | .serverInstall, .canceled => some .notInstalled
  | .serverDelete, .success => some .notInstalled
  | _, _ => none

/-! The settings of servers, as in `internal/domain/server_setting.go`. -/

inductive ServerSettingValue where
  | unknown
  | string (value : String)
  | bool (value : Bool)
  | int (value : Int)
  deriving DecidableEq

/-- `Bool`, with no value when the setting cannot be read as one. -/
def ServerSettingValue.toBool : ServerSettingValue → Option Bool
  | .bool value => some value
  | .int value => some (value != 0)
  | .string value =>
    if value = "true" then some true
    else if value = "false" then some false
    else none
  | .unknown => none

/-- A value of a decoded body.  A number is kept as the `int` that it is cut to, a list or an
object as the text that `%v` prints. -/
inductive AnyValue where
  | null
  | string (value : String)
  | bool (value : Bool)
  | number (value : Int)
  | printed (text : String)
  deriving DecidableEq

def newServerSettingValue : AnyValue → ServerSettingValue
  | .string value => .string value
  | .bool value => .bool value
  | .number value => .int value
  | .null => .unknown
  | .printed text => .string text

structure ServerSetting where
  id : Nat
  name : String
  serverID : Nat
  value : ServerSettingValue
  deriving DecidableEq

end ShadowPanel.Domain
