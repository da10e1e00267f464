import ShadowPanel.Repositories.Servers

namespace ShadowPanel.Plugin

open Data Domain Filters Repositories

/-! The servers that the host library of `internal/plugin/hostlibrary/servers.go`
hands to plugins and takes back from them. -/

/-- The message `gameap.Server`.  A time is kept as in the domain, and an entry
of the metadata as the text that it wraps. -/
structure ProtoServer where
  id : Nat
  uuid : String
  uuidShort : String
  enabled : Bool
  installed : ServerInstalledStatus
  blocked : Bool
  name : String
  gameID : String
  dsID : Nat
  gameModID : Nat
  expires : Option Int
  serverIP : String
  serverPort : Int32
  queryPort : Option Int32
  rconPort : Option Int32
  rcon : Option String
  dir : String
  suUser : Option String
  cpuLimit : Option Int32
  ramLimit : Option Int32
  netLimit : Option Int32
  startCommand : Option String
  stopCommand : Option String
  forceStopCommand : Option String
  restartCommand : Option String
  processActive : Bool
  lastProcessCheck : Option Int
  vars : Option String
  createdAt : Option Int
  updatedAt : Option Int
  deletedAt : Option Int
  metadata : List (String × String)

def nilUUID : String := "00000000-0000-0000-0000-000000000000"

def convertServerToProto (server : Server) : ProtoServer where
  id := server.id
  uuid := server.uid
  uuidShort := String.ofList (server.uid.toList.take 8)
  enabled := server.enabled
  installed := server.installed
  blocked := server.blocked
  name := server.name
  gameID := server.gameID
  dsID := server.dsID
  gameModID := server.gameModID
  expires := none
  serverIP := server.serverIP
  serverPort := .ofInt server.serverPort
  queryPort := server.queryPort.map .ofInt
  rconPort := server.rconPort.map .ofInt
  rcon := none
  dir := server.dir
  suUser := server.suUser
  cpuLimit := none
  ramLimit := none
  netLimit := none
  startCommand := server.startCommand
  stopCommand := none
  forceStopCommand := none
  restartCommand := none
  processActive := server.processActive
  lastProcessCheck := none
  vars := none
  createdAt := none
  updatedAt := none
  deletedAt := none
  metadata := server.metadata

/-- The fields that the source does not name get their zero values. -/
def convertServerFromProto (message : ProtoServer) : Server where
  id := message.id
  dsID := message.dsID
  installed := message.installed
  processActive := message.processActive
  lastProcessCheck := none
  createdAt := none
  updatedAt := none
  deletedAt := none
  uid := nilUUID
  enabled := message.enabled
  blocked := message.blocked
  name := message.name
  gameID := message.gameID
  gameModID := message.gameModID
  expires := none
  serverIP := message.serverIP
  serverPort := message.serverPort.toInt
  queryPort := message.queryPort.map Int32.toInt
  rconPort := message.rconPort.map Int32.toInt
  rcon := none
  dir := message.dir
  suUser := message.suUser
  cpuLimit := none
  ramLimit := none
  netLimit := none
  startCommand := message.startCommand
  stopCommand := none
  forceStopCommand := none
  restartCommand := none
  vars := []
  metadata := []

structure GetServerResponse where
  server : Option ProtoServer
  found : Bool

def getServer (serverRepo : ServerRepository) (id : Nat) : GetServerResponse :=
  match serverRepo.find (findServerByIDs [id]) none with
  | [] => ⟨none, false⟩
  | server :: _ => ⟨some (convertServerToProto server), true⟩

structure SaveServerResponse where
  success : Bool
  id : Nat
  error : Option String

/-- The repository of the cited source never fails to save. -/
def saveServer (serverRepo : ServerRepository) (now : Int) (message : Option ProtoServer) :
    SaveServerResponse × ServerRepository :=
  match message with
  | none => (⟨false, 0, some "server is required"⟩, serverRepo)
  | some message =>
    let server := convertServerFromProto message
    (⟨true, serverRepo.idFor server, none⟩, serverRepo.save now server)

variable {id : Nat}

/-! What a message that is sent back leaves of the stored server. -/

/-- Every field of the server whose field of the message was sent as it was
given is as before.  `UpdatedAt` is free, and the identifier is that of the
row. -/
structure Untouched (given sent : ProtoServer) (before after : Server) : Prop where
  uid : sent.uuid = given.uuid → after.uid = before.uid
  enabled : sent.enabled = given.enabled → after.enabled = before.enabled
  installed : sent.installed = given.installed → after.installed = before.installed
  blocked : sent.blocked = given.blocked → after.blocked = before.blocked
  name : sent.name = given.name → after.name = before.name
  gameID : sent.gameID = given.gameID → after.gameID = before.gameID
  dsID : sent.dsID = given.dsID → after.dsID = before.dsID
  gameModID : sent.gameModID = given.gameModID → after.gameModID = before.gameModID
  expires : sent.expires = given.expires → after.expires = before.expires
  serverIP : sent.serverIP = given.serverIP → after.serverIP = before.serverIP
  serverPort : sent.serverPort = given.serverPort → after.serverPort = before.serverPort
  queryPort : sent.queryPort = given.queryPort → after.queryPort = before.queryPort
  rconPort : sent.rconPort = given.rconPort → after.rconPort = before.rconPort
  rcon : sent.rcon = given.rcon → after.rcon = before.rcon
  dir : sent.dir = given.dir → after.dir = before.dir
  suUser : sent.suUser = given.suUser → after.suUser = before.suUser
  cpuLimit : sent.cpuLimit = given.cpuLimit → after.cpuLimit = before.cpuLimit
  ramLimit : sent.ramLimit = given.ramLimit → after.ramLimit = before.ramLimit
  netLimit : sent.netLimit = given.netLimit → after.netLimit = before.netLimit
  startCommand : sent.startCommand = given.startCommand → after.startCommand = before.startCommand
  stopCommand : sent.stopCommand = given.stopCommand → after.stopCommand = before.stopCommand
  forceStopCommand : sent.forceStopCommand = given.forceStopCommand →
    after.forceStopCommand = before.forceStopCommand
  restartCommand : sent.restartCommand = given.restartCommand →
    after.restartCommand = before.restartCommand
  processActive : sent.processActive = given.processActive →
    after.processActive = before.processActive
  lastProcessCheck : sent.lastProcessCheck = given.lastProcessCheck →
    after.lastProcessCheck = before.lastProcessCheck
  vars : sent.vars = given.vars → after.vars = before.vars
  createdAt : sent.createdAt = given.createdAt → after.createdAt = before.createdAt
  deletedAt : sent.deletedAt = given.deletedAt → after.deletedAt = before.deletedAt
  metadata : sent.metadata = given.metadata → after.metadata = before.metadata

def FitsInt32 (number : Int) : Prop := -2147483648 ≤ number ∧ number < 2147483648

/-- What the two conversions lose is not there: outside the fields that the
plugin changed, those that the way back does not carry are empty, and the
ports fit. -/
structure Carried (given sent : ProtoServer) (created : Option Int) (server : Server) : Prop where
  uid : sent.uuid = given.uuid → server.uid = nilUUID
  expires : sent.expires = given.expires → server.expires = none
  serverPort : sent.serverPort = given.serverPort → FitsInt32 server.serverPort
  queryPort : sent.queryPort = given.queryPort →
    ∀ port, server.queryPort = some port → FitsInt32 port
  rconPort : sent.rconPort = given.rconPort → ∀ port, server.rconPort = some port → FitsInt32 port
  rcon : sent.rcon = given.rcon → server.rcon = none
  cpuLimit : sent.cpuLimit = given.cpuLimit → server.cpuLimit = none
  ramLimit : sent.ramLimit = given.ramLimit → server.ramLimit = none
  netLimit : sent.netLimit = given.netLimit → server.netLimit = none
  stopCommand : sent.stopCommand = given.stopCommand → server.stopCommand = none
  forceStopCommand : sent.forceStopCommand = given.forceStopCommand → server.forceStopCommand = none
  restartCommand : sent.restartCommand = given.restartCommand → server.restartCommand = none
  lastProcessCheck : sent.lastProcessCheck = given.lastProcessCheck → server.lastProcessCheck = none
  vars : sent.vars = given.vars → server.vars = []
  createdAt : sent.createdAt = given.createdAt → server.createdAt = created
  metadata : sent.metadata = given.metadata → server.metadata = []

theorem toInt_ofInt_eq_iff (number : Int) :
    (Int32.ofInt number).toInt = number ↔ FitsInt32 number := by
  have size : Int32.size = 4294967296 := rfl
  rw [Int32.toInt_ofInt, FitsInt32, size]
  constructor
  · intro same
    have low := Int.le_bmod (x := number) (m := 4294967296) (by omega)
    have high := Int.bmod_lt (x := number) (m := 4294967296) (by omega)
    omega
  · rintro ⟨low, high⟩
    apply Int.bmod_eq_of_le <;> omega

theorem map_toInt_eq_iff (port : Option Int) : (port.map Int32.ofInt).map Int32.toInt = port ↔
    ∀ number, port = some number → FitsInt32 number := by
  cases port with
  | none => simp
  | some number =>
    simp only [Option.map_some, Option.some.injEq, forall_eq', toInt_ofInt_eq_iff]

theorem Untouched.refl (given sent : ProtoServer) (server : Server) :
    Untouched given sent server server := by
  constructor <;> exact fun _ => rfl

def writtenRow (sent : ProtoServer) (id : Nat) (created updated : Option Int) : Server :=
  { convertServerFromProto sent with
    id := id
    createdAt := created
    updatedAt := updated }

section

theorem serverPort_writtenRow_iff
    (same : sent.serverPort = (convertServerToProto server).serverPort) :
    (writtenRow sent id created updated).serverPort = server.serverPort ↔
      FitsInt32 server.serverPort := by
  change sent.serverPort.toInt = _ ↔ _
  rw [same]
  exact toInt_ofInt_eq_iff server.serverPort

theorem queryPort_writtenRow_iff (same : sent.queryPort = (convertServerToProto server).queryPort) :
    (writtenRow sent id created updated).queryPort = server.queryPort ↔
      ∀ port, server.queryPort = some port → FitsInt32 port := by
  change sent.queryPort.map Int32.toInt = _ ↔ _
  rw [same]
  exact map_toInt_eq_iff server.queryPort

theorem rconPort_writtenRow_iff (same : sent.rconPort = (convertServerToProto server).rconPort) :
    (writtenRow sent id created updated).rconPort = server.rconPort ↔
      ∀ port, server.rconPort = some port → FitsInt32 port := by
  change sent.rconPort.map Int32.toInt = _ ↔ _
  rw [same]
  exact map_toInt_eq_iff server.rconPort

theorem carried_of_untouched
    (untouched : Untouched (convertServerToProto server) sent server
      (writtenRow sent id created updated)) :
    Carried (convertServerToProto server) sent created server where
  uid := fun same => (untouched.uid same).symm
  expires := fun same => (untouched.expires same).symm
  serverPort := fun same => (serverPort_writtenRow_iff same).mp (untouched.serverPort same)
  queryPort := fun same => (queryPort_writtenRow_iff same).mp (untouched.queryPort same)
  rconPort := fun same => (rconPort_writtenRow_iff same).mp (untouched.rconPort same)
  rcon := fun same => (untouched.rcon same).symm
  cpuLimit := fun same => (untouched.cpuLimit same).symm
  ramLimit := fun same => (untouched.ramLimit same).symm
  netLimit := fun same => (untouched.netLimit same).symm
  stopCommand := fun same => (untouched.stopCommand same).symm
  forceStopCommand := fun same => (untouched.forceStopCommand same).symm
  restartCommand := fun same => (untouched.restartCommand same).symm
  lastProcessCheck := fun same => (untouched.lastProcessCheck same).symm
  vars := fun same => (untouched.vars same).symm
  createdAt := fun same => (untouched.createdAt same).symm
  metadata := fun same => (untouched.metadata same).symm

theorem untouched_of_carried (kept : server.deletedAt = none)
    (carried : Carried (convertServerToProto server) sent created server) :
    Untouched (convertServerToProto server) sent server (writtenRow sent id created updated) where
  uid := fun same => (carried.uid same).symm
  enabled := fun same => same
  installed := fun same => same
  blocked := fun same => same
  name := fun same => same
  gameID := fun same => same
  dsID := fun same => same
  gameModID := fun same => same
  expires := fun same => (carried.expires same).symm
  serverIP := fun same => same
  serverPort := fun same => (serverPort_writtenRow_iff same).mpr (carried.serverPort same)
  queryPort := fun same => (queryPort_writtenRow_iff same).mpr (carried.queryPort same)
  rconPort := fun same => (rconPort_writtenRow_iff same).mpr (carried.rconPort same)
  rcon := fun same => (carried.rcon same).symm
  dir := fun same => same
  suUser := fun same => same
  cpuLimit := fun same => (carried.cpuLimit same).symm
  ramLimit := fun same => (carried.ramLimit same).symm
  netLimit := fun same => (carried.netLimit same).symm
  startCommand := fun same => same
  stopCommand := fun same => (carried.stopCommand same).symm
  forceStopCommand := fun same => (carried.forceStopCommand same).symm
  restartCommand := fun same => (carried.restartCommand same).symm
  processActive := fun same => same
  lastProcessCheck := fun same => (carried.lastProcessCheck same).symm
  vars := fun same => (carried.vars same).symm
  createdAt := fun same => (carried.createdAt same).symm
  deletedAt := fun _ => kept.symm
  metadata := fun same => (carried.metadata same).symm

end

theorem getServer_eq_some (got : getServer serverRepo id = ⟨some given, true⟩) :
    ∃ server, serverRepo.get id = some server ∧ server.deletedAt = none ∧
      given = convertServerToProto server := by
  rw [getServer, ServerRepository.find_byIDs] at got
  cases found : serverRepo.get id with
  | none => simp [found] at got
  | some server =>
    by_cases kept : server.deletedAt.isNone = true
    · simp only [found, Option.filter, kept] at got
      injection got with message
      exact ⟨server, rfl, Option.isNone_iff_eq_none.mp kept, (Option.some.inj message).symm⟩
    · simp [found, Option.filter, kept] at got

def target (serverRepo : ServerRepository) (sent : ProtoServer) : Nat :=
  serverRepo.idFor (convertServerFromProto sent)

def creation (sent : ProtoServer) (now : Int) : Option Int := if sent.id = 0 then some now else none

theorem rows_saveServer : (saveServer serverRepo now (some sent)).2.rows =
    place Server.id (writtenRow sent (target serverRepo sent) (creation sent now) (some now))
      serverRepo.rows := by
  have written : serverRepo.written now (convertServerFromProto sent) =
      writtenRow sent (target serverRepo sent) (creation sent now) (some now) := by
    by_cases fresh : sent.id = 0 <;>
      simp [ServerRepository.written, writtenRow, target, creation, convertServerFromProto, fresh]
  rw [← written]
  rfl

theorem get_saveServer (own : target serverRepo sent = id) :
    (saveServer serverRepo now (some sent)).2.get id =
      some (writtenRow sent id (creation sent now) (some now)) := by
  subst own
  rw [ServerRepository.get, rows_saveServer]
  exact find?_place_self Server.id
    (writtenRow sent (target serverRepo sent) (creation sent now) (some now)) serverRepo.rows

theorem get_saveServer_of_ne (other : target serverRepo sent ≠ id) :
    (saveServer serverRepo now (some sent)).2.get id = serverRepo.get id := by
  exact find?_place_of_ne Server.id other serverRepo.rows

def SavesOnly (serverRepo : ServerRepository) (id : Nat) (given sent : ProtoServer) (now : Int) :
    Prop :=
  ∀ server, serverRepo.get id = some server →
    ∃ row, (saveServer serverRepo now (some sent)).2.get id = some row ∧
      Untouched given sent server row

theorem savesOnly_iff_carried (serverRepo : ServerRepository) (id : Nat) (given sent : ProtoServer)
    (now : Int) (got : getServer serverRepo id = ⟨some given, true⟩) :
    SavesOnly serverRepo id given sent now ↔
      (target serverRepo sent = id → ∀ server, serverRepo.get id = some server →
        Carried given sent (creation sent now) server) := by
  obtain ⟨server, found, kept, rfl⟩ := getServer_eq_some got
  unfold SavesOnly
  simp only [found, Option.some.injEq, forall_eq']
  by_cases own : target serverRepo sent = id
  · rw [get_saveServer own]
    simp only [Option.some.injEq, exists_eq_left', own, true_implies]
    exact ⟨carried_of_untouched, untouched_of_carried kept⟩
  · rw [get_saveServer_of_ne own, found]
    simp only [Option.some.injEq, exists_eq_left', own, false_implies, iff_true]
    exact Untouched.refl _ sent server

def arena (rcon stopCommand : Option String) : Server :=
  { (default : Server) with
    id := 3
    uid := nilUUID
    name := "arena"
    serverIP := "10.0.0.2"
    serverPort := 27015
    dir := "servers/arena"
    rcon := rcon
    stopCommand := stopCommand }

theorem arena_numbered (rcon stopCommand : Option String) (row : Server)
    (member : row ∈ [arena rcon stopCommand]) : row.id ≠ 0 := by
  rw [List.mem_singleton.mp member]
  exact Nat.succ_ne_zero 2

def arenaStore (rcon stopCommand : Option String) : ServerRepository where
  rows := [arena rcon stopCommand]
  nextID := 3
  ordered := List.pairwise_singleton _ _
  numbered := arena_numbered rcon stopCommand

def renamedArena (rcon stopCommand : Option String) : ProtoServer :=
  { convertServerToProto (arena rcon stopCommand) with name := "arena 2" }

theorem savesOnly_arena :
    SavesOnly (arenaStore none none) 3 (convertServerToProto (arena none none))
      (renamedArena none none) 100 := by
  refine (savesOnly_iff_carried (arenaStore none none) 3 _ (renamedArena none none) 100
    rfl).mpr ?_
  intro _ server found
  cases Option.some.inj found
  have fits : FitsInt32 27015 := ⟨by decide, by decide⟩
  have noPort : ∀ port : Int, none = some port → FitsInt32 port :=
    fun _ found => nomatch found
  exact ⟨fun _ => rfl, fun _ => rfl, fun _ => fits, fun _ => noPort, fun _ => noPort,
    fun _ => rfl, fun _ => rfl, fun _ => rfl, fun _ => rfl, fun _ => rfl, fun _ => rfl,
    fun _ => rfl, fun _ => rfl, fun _ => rfl, fun _ => rfl, fun _ => rfl⟩

theorem rcon_lost_by_renaming : getServer (arenaStore (some "secret") (some "stop")) 3 =
      ⟨some (convertServerToProto (arena (some "secret") (some "stop"))), true⟩ ∧
    ¬SavesOnly (arenaStore (some "secret") (some "stop")) 3
      (convertServerToProto (arena (some "secret") (some "stop")))
      (renamedArena (some "secret") (some "stop")) 100 := by
  refine ⟨rfl, ?_⟩
  intro only
  obtain ⟨row, saved, untouched⟩ := only (arena (some "secret") (some "stop")) rfl
  cases Option.some.inj saved
  exact Option.some_ne_none "secret" (untouched.rcon rfl).symm

end ShadowPanel.Plugin
