import ShadowPanel.Domain.GameExport
import ShadowPanel.Repositories.Games

namespace ShadowPanel.Services

open Data Domain Filters Repositories Validation

/-! The export and the import of games, of `internal/services/gameexporter` and
`internal/services/gameapimporter`. -/

structure ImportOptions where
  name : Option String
  code : Option String

namespace ImportOptions

def minCodeLength : Nat := 2
def maxCodeLength : Nat := 16
def minNameLength : Nat := 2
def maxNameLength : Nat := 128

def hasLength (least most : Nat) (text : String) : Bool :=
  least ≤ text.utf8ByteSize && text.utf8ByteSize ≤ most

def checks (opts : ImportOptions) : List (Bool × String) :=
  [(opts.code.all (hasLength minCodeLength maxCodeLength),
      s!"code must be between {minCodeLength} and {maxCodeLength} characters"),
    (opts.code.all isSlug, "code must match pattern: ^[a-z0-9_-]+$"),
    (opts.name.all (hasLength minNameLength maxNameLength),
      s!"name must be between {minNameLength} and {maxNameLength} characters")]

def validate : Option ImportOptions → Except String Unit
  | none => .ok ()
  | some opts => firstFailure opts.checks

def isEmpty (opts : Option ImportOptions) : Bool :=
  opts.all fun opts => opts.name.isNone && opts.code.isNone

def apply (opts : Option ImportOptions) (game : Game) : Game :=
  match opts with
  | none => game
  | some opts =>
    { game with name := opts.name.getD game.name, code := opts.code.getD game.code }

theorem validate_of_isEmpty (empty : isEmpty opts = true) : validate opts = .ok () := by
  cases opts with
  | none => rfl
  | some opts =>
    obtain ⟨name, code⟩ := opts
    simp only [isEmpty, Option.all_some, Bool.and_eq_true, Option.isNone_iff_eq_none] at empty
    rw [empty.1, empty.2]
    rfl

theorem apply_of_isEmpty (empty : isEmpty opts = true) (game : Game) : apply opts game = game := by
  cases opts with
  | none => rfl
  | some opts =>
    obtain ⟨name, code⟩ := opts
    simp only [isEmpty, Option.all_some, Bool.and_eq_true, Option.isNone_iff_eq_none] at empty
    rw [empty.1, empty.2]
    rfl

end ImportOptions

@[ext] structure GameStore (driver : UserDriver) where
  games : GameRepository driver
  mods : GameModRepository driver

inductive ExportError where
  | codeRequired
  | notFound (gameCode : String)

structure ExportOrders where
  games : Reordering Game
  mods : Reordering GameMod

def exportToStruct (orders : ExportOrders) (exportedAt version : String) (state : GameStore driver)
    (gameCode : String) : Except ExportError GameExport :=
  if gameCode = "" then .error .codeRequired
  else
    match orders.games.apply (state.games.find (findGameByCodes [gameCode])) with
    | [] => .error (.notFound gameCode)
    | game :: _ =>
      .ok (newGameExportFromDomain exportedAt version game
        (orders.mods.apply (state.mods.find (findGameModByGameCodes [gameCode]))))

structure ImportResult where
  game : Game
  modsCreated : List String
  modsUpdated : List String

/-- The orders of one import: of the commands of each mod, of the games, and of the mods that
are found for each name. -/
structure ImportOrders where
  commands : Reordering LimitedText
  games : Reordering Game
  mods : String → Reordering GameMod

def findExisting (gameCode name : String) : FindGameMod where
  ids := []
  names := [name]
  gameCodes := [gameCode]

def mergedMod (existing mod : GameMod) : GameMod :=
  { mod with
    id := existing.id
    metadata := mergeMetadata existing.metadata mod.metadata }

section

variable (orders : ImportOrders)

def importMod (gameCode : String) (progress : GameModRepository driver × ImportResult)
    (mod : GameMod) : GameModRepository driver × ImportResult :=
  let (store, result) := progress
  match (orders.mods mod.name).apply (store.find (findExisting gameCode mod.name)) with
  | [] => (store.save mod, { result with modsCreated := result.modsCreated ++ [mod.name] })
  | existing :: _ =>
    (store.save (mergedMod existing mod),
      { result with modsUpdated := result.modsUpdated ++ [mod.name] })

def mergedGame (existing : List Game) (game : Game) : Game :=
  match existing with
  | [] => game
  | existing :: _ => { game with metadata := mergeMetadata existing.metadata game.metadata }

def saveMerged (state : GameStore driver) (game : Game) (mods : List GameMod) :
    GameStore driver × ImportResult :=
  let saved := mods.foldl (importMod orders game.code) (state.mods, ⟨game, [], []⟩)
  (⟨state.games.save game, saved.1⟩, saved.2)

def saveImport (state : GameStore driver) (game : Game) (mods : List GameMod) :
    GameStore driver × ImportResult :=
  let existing := orders.games.apply (state.games.find (findGameByCodes [game.code]))
  saveMerged orders state (mergedGame existing game) mods

/-- `Import` of the GameAP importer, where no call of the stores fails. -/
def importGame (state : GameStore driver) (exported : Option GameExport)
    (opts : Option ImportOptions) : Except String (GameStore driver × ImportResult) :=
  match exported with
  | none => .error "export cannot be nil"
  | some exported => do
      prefixed "validation failed" (exported.validate orders.commands)
      prefixed "options validation failed" (ImportOptions.validate opts)
      let game := ImportOptions.apply opts exported.game.toDomainGame
      .ok (saveImport orders state game
        (exported.mods.map (GameExportMod.toDomainGameMod game.code)))

end

theorem importGame_of_valid (valid : exported.Valid) (empty : ImportOptions.isEmpty opts = true) :
    importGame orders state (some exported) opts =
      .ok (saveImport orders state exported.game.toDomainGame
        (exported.mods.map (GameExportMod.toDomainGameMod exported.game.code))) := by
  unfold importGame
  dsimp only
  rw [GameExport.validate_eq_ok_iff.mpr valid, ImportOptions.validate_of_isEmpty empty,
    ImportOptions.apply_of_isEmpty empty]
  rfl

end ShadowPanel.Services
