import ShadowPanel.Data.Reordering
import ShadowPanel.Domain.Games
import ShadowPanel.Validation

namespace ShadowPanel.Domain

open Data Validation List

/-! The exports of games, of `internal/domain/gameap_export.go`. -/

def currentSchemaVersion : String := "1.0"

def maxGameCodeLength : Nat := 16
def maxGameNameLength : Nat := 128
def maxEngineLength : Nat := 128
def maxEngineVersionLength : Nat := 128
def maxRepositoryLength : Nat := 128
def maxStartCmdLength : Nat := 1000
def maxCommandLength : Nat := 200
def maxModNameLength : Nat := 255
def maxSteamAppSetConfigLength : Nat := 128

structure GameExportGame where
  code : String
  name : String
  engine : String
  engineVersion : String
  steamAppIDLinux : Option Nat
  steamAppIDWindows : Option Nat
  steamAppSetConfig : Option String
  remoteRepositoryLinux : Option String
  remoteRepositoryWindows : Option String
  localRepositoryLinux : Option String
  localRepositoryWindows : Option String
  metadata : Metadata

structure GameExportModFastRcon where
  info : String
  command : String

structure GameExportModVar where
  var : String
  default : String
  info : String
  adminVar : Bool

structure GameExportMod where
  name : String
  fastRcon : Option (List GameExportModFastRcon)
  vars : Option (List GameExportModVar)
  remoteRepositoryLinux : Option String
  remoteRepositoryWindows : Option String
  localRepositoryLinux : Option String
  localRepositoryWindows : Option String
  startCmdLinux : Option String
  startCmdWindows : Option String
  kickCmd : Option String
  banCmd : Option String
  chnameCmd : Option String
  srestartCmd : Option String
  chmapCmd : Option String
  sendmsgCmd : Option String
  passwdCmd : Option String
  metadata : Metadata

structure GameExport where
  schemaVersion : String
  exportedAt : String
  exportedBy : String
  game : GameExportGame
  mods : List GameExportMod

def firstFailure (checks : List (Bool × String)) : Except String Unit :=
  match checks.find? fun check => !check.1 with
  | some check => .error check.2
  | none => .ok ()

def prefixed (text : String) : Except String Unit → Except String Unit
  | .error cause => .error (text ++ ": " ++ cause)
  | .ok _ => .ok ()

/-- Lengths are numbers of bytes; no text is short enough. -/
def isWithin (limit : Nat) (text : Option String) : Bool :=
  text.all fun text => text.utf8ByteSize ≤ limit

namespace GameExportGame

variable (game : GameExportGame)

def limitCheck (field : String) (limit : Nat) (text : Option String) : Bool × String :=
  (isWithin limit text, s!"game.{field} must be at most {limit} characters")

def checks : List (Bool × String) :=
  [(game.code != "", "game.code is required"),
    (2 ≤ game.code.utf8ByteSize && game.code.utf8ByteSize ≤ maxGameCodeLength,
      s!"game.code must be between 2 and {maxGameCodeLength} characters"),
    (isSlug game.code, "game.code must match pattern: ^[a-z0-9_-]+$"),
    (game.name != "", "game.name is required"),
    (2 ≤ game.name.utf8ByteSize && game.name.utf8ByteSize ≤ maxGameNameLength,
      s!"game.name must be between 2 and {maxGameNameLength} characters"),
    (game.engine != "", "game.engine is required"),
    limitCheck "engine" maxEngineLength (some game.engine),
    limitCheck "engine_version" maxEngineVersionLength (some game.engineVersion),
    limitCheck "remote_repository_linux" maxRepositoryLength game.remoteRepositoryLinux,
    limitCheck "remote_repository_windows" maxRepositoryLength game.remoteRepositoryWindows,
    limitCheck "local_repository_linux" maxRepositoryLength game.localRepositoryLinux,
    limitCheck "local_repository_windows" maxRepositoryLength game.localRepositoryWindows,
    limitCheck "steam_app_set_config" maxSteamAppSetConfigLength game.steamAppSetConfig]

end GameExportGame

structure LimitedText where
  field : String
  limit : Nat
  text : Option String

def LimitedText.fits (limited : LimitedText) : Bool := isWithin limited.limit limited.text

namespace GameExportMod

variable (mod : GameExportMod)

def commands : List LimitedText :=
  [⟨"kick_cmd", maxCommandLength, mod.kickCmd⟩, ⟨"ban_cmd", maxCommandLength, mod.banCmd⟩,
    ⟨"chname_cmd", maxCommandLength, mod.chnameCmd⟩,
    ⟨"srestart_cmd", maxCommandLength, mod.srestartCmd⟩,
    ⟨"chmap_cmd", maxCommandLength, mod.chmapCmd⟩,
    ⟨"sendmsg_cmd", maxCommandLength, mod.sendmsgCmd⟩,
    ⟨"passwd_cmd", maxCommandLength, mod.passwdCmd⟩]

def texts (order : Reordering LimitedText) : List LimitedText :=
  [⟨"start_cmd_linux", maxStartCmdLength, mod.startCmdLinux⟩,
    ⟨"start_cmd_windows", maxStartCmdLength, mod.startCmdWindows⟩] ++
  order.apply mod.commands ++
  [⟨"remote_repository_linux", maxRepositoryLength, mod.remoteRepositoryLinux⟩,
    ⟨"remote_repository_windows", maxRepositoryLength, mod.remoteRepositoryWindows⟩,
    ⟨"local_repository_linux", maxRepositoryLength, mod.localRepositoryLinux⟩,
    ⟨"local_repository_windows", maxRepositoryLength, mod.localRepositoryWindows⟩]

def validateModCommands (order : Reordering LimitedText) (index : Nat) : List (Bool × String) :=
  (mod.texts order).map fun limited =>
    (limited.fits, s!"mods[{index}].{limited.field} must be at most {limited.limit} characters")

def checks (order : Reordering LimitedText) (index : Nat) (seen : List String) :
    List (Bool × String) :=
  (mod.name != "", s!"mods[{index}].name is required") ::
    (mod.name.utf8ByteSize ≤ maxModNameLength,
      s!"mods[{index}].name must be at most {maxModNameLength} characters") ::
    (!seen.contains mod.name, s!"duplicate mod name: {mod.name}") ::
    mod.validateModCommands order index

end GameExportMod

namespace GameExport

variable (exported : GameExport)

def validateMods (order : Reordering LimitedText) :
    (index : Nat) → (seen : List String) → List GameExportMod → Except String Unit
  | _, _, [] => .ok ()
  | index, seen, mod :: rest =>
    match firstFailure (mod.checks order index seen) with
    | .error text => .error text
    | .ok _ => validateMods order (index + 1) (mod.name :: seen) rest

def schemaChecks : List (Bool × String) :=
  [(exported.schemaVersion != "", "schema_version is required"),
    (exported.schemaVersion == currentSchemaVersion,
      s!"unsupported schema version: {exported.schemaVersion}, expected: {currentSchemaVersion}")]

def validate (order : Reordering LimitedText) : Except String Unit := do
  firstFailure exported.schemaChecks
  prefixed "game validation failed" (firstFailure exported.game.checks)
  prefixed "mods validation failed" (validateMods order 0 [] exported.mods)

end GameExport

def GameExportGame.toDomainGame (game : GameExportGame) : Game where
  code := game.code
  name := game.name
  engine := game.engine
  engineVersion := game.engineVersion
  steamAppIDLinux := game.steamAppIDLinux
  steamAppIDWindows := game.steamAppIDWindows
  steamAppSetConfig := game.steamAppSetConfig
  remoteRepositoryLinux := game.remoteRepositoryLinux
  remoteRepositoryWindows := game.remoteRepositoryWindows
  localRepositoryLinux := game.localRepositoryLinux
  localRepositoryWindows := game.localRepositoryWindows
  enabled := 1
  metadata := game.metadata

def GameExportMod.toDomainGameMod (gameCode : String) (mod : GameExportMod) : GameMod where
  id := 0
  gameCode := gameCode
  name := mod.name
  fastRcon := some ((mod.fastRcon.getD []).map fun entry => ⟨entry.info, entry.command⟩)
  vars := some ((mod.vars.getD []).map fun entry =>
    ⟨entry.var, entry.default, entry.info, entry.adminVar⟩)
  remoteRepositoryLinux := mod.remoteRepositoryLinux
  remoteRepositoryWindows := mod.remoteRepositoryWindows
  localRepositoryLinux := mod.localRepositoryLinux
  localRepositoryWindows := mod.localRepositoryWindows
  startCmdLinux := mod.startCmdLinux
  startCmdWindows := mod.startCmdWindows
  kickCmd := mod.kickCmd
  banCmd := mod.banCmd
  chnameCmd := mod.chnameCmd
  srestartCmd := mod.srestartCmd
  chmapCmd := mod.chmapCmd
  sendmsgCmd := mod.sendmsgCmd
  passwdCmd := mod.passwdCmd
  metadata := mod.metadata

def filled {α : Type} (entries : List α) : Option (List α) :=
  if 0 < entries.length then some entries else none

def newGameExportModFromDomain (mod : GameMod) : GameExportMod where
  name := mod.name
  fastRcon := filled ((mod.fastRcon.getD []).map fun entry => ⟨entry.info, entry.command⟩)
  vars := filled ((mod.vars.getD []).map fun entry =>
    ⟨entry.var, entry.default, entry.info, entry.adminVar⟩)
  remoteRepositoryLinux := mod.remoteRepositoryLinux
  remoteRepositoryWindows := mod.remoteRepositoryWindows
  localRepositoryLinux := mod.localRepositoryLinux
  localRepositoryWindows := mod.localRepositoryWindows
  startCmdLinux := mod.startCmdLinux
  startCmdWindows := mod.startCmdWindows
  kickCmd := mod.kickCmd
  banCmd := mod.banCmd
  chnameCmd := mod.chnameCmd
  srestartCmd := mod.srestartCmd
  chmapCmd := mod.chmapCmd
  sendmsgCmd := mod.sendmsgCmd
  passwdCmd := mod.passwdCmd
  metadata := mod.metadata

def newGameExportGame (game : Game) : GameExportGame where
  code := game.code
  name := game.name
  engine := game.engine
  engineVersion := game.engineVersion
  steamAppIDLinux := game.steamAppIDLinux
  steamAppIDWindows := game.steamAppIDWindows
  steamAppSetConfig := game.steamAppSetConfig
  remoteRepositoryLinux := game.remoteRepositoryLinux
  remoteRepositoryWindows := game.remoteRepositoryWindows
  localRepositoryLinux := game.localRepositoryLinux
  localRepositoryWindows := game.localRepositoryWindows
  metadata := game.metadata

def newGameExportFromDomain (exportedAt version : String) (game : Game) (mods : List GameMod) :
    GameExport where
  schemaVersion := currentSchemaVersion
  exportedAt := exportedAt
  exportedBy := if version != "" then "GameAP " ++ version else "GameAP"
  game := newGameExportGame game
  mods := mods.map newGameExportModFromDomain

theorem firstFailure_eq_ok_iff :
    firstFailure checks = .ok () ↔ ∀ check ∈ checks, check.1 = true := by
  unfold firstFailure
  cases found : checks.find? fun check => !check.1 with
  | none => simpa using find?_eq_none.mp found
  | some check =>
    have failed : (!check.1) = true := by simpa using find?_some found
    constructor
    · intro accepted
      cases accepted
    · intro all
      rw [all check (mem_of_find?_eq_some found)] at failed
      cases failed

theorem prefixed_eq_ok_iff (text : String) (result : Except String Unit) :
    prefixed text result = .ok () ↔ result = .ok () := by
  cases result with
  | error cause => exact ⟨nofun, nofun⟩
  | ok nothing => exact Iff.rfl

structure GameExportMod.Valid (mod : GameExportMod) : Prop where
  named : mod.name ≠ ""
  name : mod.name.utf8ByteSize ≤ maxModNameLength
  texts : ∀ limited ∈ mod.texts .kept, limited.fits = true

theorem GameExportMod.mem_texts {mod : GameExportMod} :
    limited ∈ mod.texts order ↔ limited ∈ mod.texts .kept := by
  simp [texts]

theorem GameExportMod.firstFailure_checks_iff {mod : GameExportMod} :
    firstFailure (mod.checks order index seen) = .ok () ↔ mod.Valid ∧ mod.name ∉ seen := by
  rw [firstFailure_eq_ok_iff, checks, forall_mem_cons, forall_mem_cons,
    forall_mem_cons, validateModCommands, forall_mem_map]
  simp only [mem_texts, bne_iff_ne, decide_eq_true_eq, Bool.not_eq_true', contains_eq_mem,
    decide_eq_false_iff_not]
  constructor
  · intro ⟨named, name, unseen, texts⟩
    exact ⟨⟨named, name, texts⟩, unseen⟩
  · intro ⟨valid, unseen⟩
    exact ⟨valid.named, valid.name, unseen, valid.texts⟩

structure GameExport.Valid (exported : GameExport) : Prop where
  schema : exported.schemaVersion = currentSchemaVersion
  game : ∀ check ∈ exported.game.checks, check.1 = true
  mods : ∀ mod ∈ exported.mods, mod.Valid
  names : (exported.mods.map GameExportMod.name).Nodup

theorem GameExport.validateMods_eq_ok_iff {mods : List GameExportMod} :
    validateMods order index seen mods = .ok () ↔
      (∀ mod ∈ mods, mod.Valid ∧ mod.name ∉ seen) ∧ (mods.map GameExportMod.name).Nodup := by
  induction mods generalizing index seen with
  | nil => simp [validateMods]
  | cons mod rest ih =>
    rw [validateMods]
    cases checked : firstFailure (mod.checks order index seen) with
    | error text =>
      have refused : ¬(mod.Valid ∧ mod.name ∉ seen) := by
        intro accepted
        rw [GameExportMod.firstFailure_checks_iff.mpr accepted] at checked
        cases checked
      exact ⟨nofun, fun all => absurd (all.1 mod mem_cons_self) refused⟩
    | ok nothing =>
      have first := GameExportMod.firstFailure_checks_iff.mp checked
      rw [ih, map_cons, nodup_cons, forall_mem_cons]
      constructor
      · intro ⟨all, names⟩
        refine ⟨⟨first, fun later member => ?_⟩, ?_, names⟩
        · exact ⟨(all later member).1, fun old => (all later member).2 (mem_cons_of_mem _ old)⟩
        · intro member
          obtain ⟨later, laterMember, same⟩ := mem_map.mp member
          exact (all later laterMember).2 (same ▸ mem_cons_self)
      · intro ⟨⟨_, all⟩, fresh, names⟩
        refine ⟨fun later member => ⟨(all later member).1, fun known => ?_⟩, names⟩
        cases mem_cons.mp known with
        | inl same => exact fresh (same ▸ mem_map_of_mem member)
        | inr old => exact (all later member).2 old

theorem GameExport.validate_eq_ok_iff {exported : GameExport} :
    exported.validate order = .ok () ↔ exported.Valid := by
  have schema : firstFailure exported.schemaChecks = .ok () ↔
      exported.schemaVersion = currentSchemaVersion := by
    rw [firstFailure_eq_ok_iff, schemaChecks, forall_mem_cons, forall_mem_singleton]
    constructor
    · intro both
      exact beq_iff_eq.mp both.2
    · intro same
      rw [same]
      exact ⟨by decide, by decide⟩
  have game := prefixed_eq_ok_iff "game validation failed" (firstFailure exported.game.checks)
  have mods := prefixed_eq_ok_iff "mods validation failed" (validateMods order 0 [] exported.mods)
  rw [firstFailure_eq_ok_iff] at game
  rw [validateMods_eq_ok_iff] at mods
  constructor
  · intro accepted
    rw [validate] at accepted
    cases first : firstFailure exported.schemaChecks with
    | error text => rw [first] at accepted; cases accepted
    | ok nothing =>
      cases second : prefixed "game validation failed" (firstFailure exported.game.checks) with
      | error text => rw [first, second] at accepted; cases accepted
      | ok nothing =>
        rw [first, second] at accepted
        obtain ⟨all, names⟩ := mods.mp accepted
        exact ⟨schema.mp first, game.mp second, fun mod member => (all mod member).1, names⟩
  · intro valid
    rw [validate, schema.mpr valid.schema, game.mpr valid.game]
    exact mods.mpr ⟨fun mod member => ⟨valid.mods mod member, not_mem_nil⟩, valid.names⟩

end ShadowPanel.Domain
