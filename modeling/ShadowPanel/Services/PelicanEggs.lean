import ShadowPanel.Data.Placeholders
import ShadowPanel.Data.Replacement
import ShadowPanel.Services.Games

namespace ShadowPanel.Services

open Data Domain Filters Repositories

/-! The import of Pelican eggs, of `internal/services/pelicaneggimporter`. -/

structure PelicanEggVariable where
  name : String
  description : String
  envVariable : String
  defaultValue : String
  userEditable : Bool

structure PelicanEggInstallationScript where
  script : String
  container : String
  entrypoint : String

/-- The fields that the importer reads; `raw` is the whole egg. -/
structure PelicanEgg where
  name : String
  dockerImages : List (String × String)
  startup : String
  startupCommands : String → Option String
  startupDone : String
  installation : PelicanEggInstallationScript
  eggVariables : List PelicanEggVariable
  raw : Json

namespace PelicanEgg

variable (egg : PelicanEgg)

def getStartupCommand : String :=
  match egg.startupCommands "Default" with
  | some command => if command != "" then command else egg.startup
  | none => egg.startup

def firstDockerImage (order : Reordering (String × String)) : String :=
  match order.apply egg.dockerImages with
  | [] => ""
  | image :: _ => image.2

end PelicanEgg

def isSlugLetter (char : Char) : Bool := 'a' ≤ char && char ≤ 'z' || '0' ≤ char && char ≤ '9'

def dashed : (prevDash : Bool) → List Char → List Char
  | _, [] => []
  | prevDash, char :: rest =>
    if isSlugLetter char then char :: dashed false rest
    else if prevDash then dashed true rest
    else '-' :: dashed true rest

def trimRight (char : Char) (text : List Char) : List Char :=
  (text.reverse.dropWhile (· == char)).reverse

def trim (char : Char) (text : List Char) : List Char := trimRight char (text.dropWhile (· == char))

structure NameFolding where
  /-- Decomposition, removal of the marks and composition, of `golang.org/x/text`. -/
  normalized : String → String
  toLower : String → String

section

variable (folding : NameFolding)

def slugify (text : String) : List Char :=
  trim '-' (dashed false (folding.toLower (folding.normalized text)).toList)

def generateGameCode (name : String) : String :=
  let code := replaceAll ['-'] ['_'] (slugify folding name)
  let code := if 16 < code.length then code.take 16 else code
  let code := trimRight '_' code
  if code.length < 2 then "gm" else String.ofList code

theorem curly_apart : '\x7b' ≠ '\x7d' := by decide

def curly : Braces Char where
  opening := '\x7b'
  closing := '\x7d'
  apart := curly_apart

def literal (body name : String) (text : List Char) : Option (List Char) :=
  if text = body.toList then some name.toList else none

def isEnvStart (char : Char) : Bool := 'A' ≤ char && char ≤ 'Z' || char == '_'

def isEnvChar (char : Char) : Bool := isEnvStart char || '0' ≤ char && char ≤ '9'

/-- `[A-Z_][A-Z0-9_]*`. -/
def isEnvName : List Char → Bool
  | [] => false
  | first :: rest => isEnvStart first && rest.all isEnvChar

/-- `envVarPattern`. -/
def envVar (text : List Char) : Option (List Char) := if isEnvName text then some text else none

def serverEnvStart : List Char := "server.build.env.".toList

/-- `serverEnvPattern`. -/
def serverEnv (text : List Char) : Option (List Char) :=
  if serverEnvStart.isPrefixOf text then envVar (text.drop serverEnvStart.length) else none

def replacePlaceholders (startup : List Char) : List Char :=
  let result := curly.substitute (literal "server.build.default.port" "port") startup
  let result := curly.substitute (literal "server.build.env.PORT" "port") result
  let result := curly.substitute (literal "server.build.default.ip" "ip") result
  let result := curly.substitute (literal "server.build.env.SERVER_IP" "ip") result
  let result := curly.substitute envVar result
  curly.substitute serverEnv result

def backtick : Char := Char.ofNat 96

def shellOperators : List (List Char) :=
  [['&', '&'], ['|', '|'], [';'], ['|'], ['>'], ['<'], ['>', '>'], ['<', '<'], ['&'],
    [backtick], ['$', '(']]

def needsShellWrapper (cmd : List Char) : Bool :=
  shellOperators.any fun operator => occursIn operator cmd

def wrapInShell (cmd : List Char) : List Char :=
  "/bin/sh -c \"".toList ++ replaceAll ['"'] ['\\', '"'] cmd ++ ['"']

def transformStartupCommand (startup : String) : String :=
  let result := replacePlaceholders startup.toList
  String.ofList (if needsShellWrapper result then wrapInShell result else result)

def buildVarInfo (entry : PelicanEggVariable) : String :=
  if entry.description != "" then entry.description else entry.name

def transformVariables (entries : List PelicanEggVariable) : List GameModVar :=
  entries.map fun entry =>
    { var := entry.envVariable
      default := entry.defaultValue
      info := buildVarInfo entry
      adminVar := !entry.userEditable }

def entriesOf (entries : List (String × Json)) : Metadata := some fun key => entries.lookup key

def buildGameModMetadata (order : Reordering (String × String)) (egg : PelicanEgg) : Metadata :=
  entriesOf
    [("docker_image", .string (egg.firstDockerImage order).toList),
      ("docker_installation_script", .string egg.installation.script.toList),
      ("docker_installation_image", .string egg.installation.container.toList),
      ("docker_installation_entrypoint", .string egg.installation.entrypoint.toList),
      ("docker_installation_user", .string "root".toList),
      ("docker_startup_done", .string egg.startupDone.toList),
      ("docker_workdir", .string "/home/container".toList),
      ("pelican_egg", egg.raw)]

def buildGame (egg : PelicanEgg) (opts : Option ImportOptions) : Game where
  code := ((opts.bind ImportOptions.code)).getD (generateGameCode folding egg.name)
  name := ((opts.bind ImportOptions.name)).getD egg.name
  engine := "pelican"
  engineVersion := ""
  steamAppIDLinux := none
  steamAppIDWindows := none
  steamAppSetConfig := none
  remoteRepositoryLinux := none
  remoteRepositoryWindows := none
  localRepositoryLinux := none
  localRepositoryWindows := none
  enabled := 1
  metadata := entriesOf [("pelican_egg", egg.raw)]

def buildGameMod (order : Reordering (String × String)) (egg : PelicanEgg) (gameCode : String) :
    GameMod where
  id := 0
  gameCode := gameCode
  name := "Default"
  fastRcon := none
  vars := some (transformVariables egg.eggVariables)
  remoteRepositoryLinux := none
  remoteRepositoryWindows := none
  localRepositoryLinux := none
  localRepositoryWindows := none
  startCmdLinux := some (transformStartupCommand egg.getStartupCommand)
  startCmdWindows := none
  kickCmd := none
  banCmd := none
  chnameCmd := none
  srestartCmd := none
  chmapCmd := none
  sendmsgCmd := none
  passwdCmd := none
  metadata := buildGameModMetadata order egg

structure EggImportResult where
  game : Game
  gameMod : GameMod

structure EggOrders where
  images : Reordering (String × String)
  games : Reordering Game
  mods : Reordering GameMod

def mergedEggMod (existing : List GameMod) (mod : GameMod) : GameMod :=
  match existing with
  | [] => mod
  | existing :: _ => mergedMod existing mod

def saveEntities (orders : EggOrders) (state : GameStore driver) (game : Game) (gameMod : GameMod) :
    GameStore driver × EggImportResult :=
  let existingGames := orders.games.apply (state.games.find (findGameByCodes [game.code]))
  let game := mergedGame existingGames game
  let existingMods := orders.mods.apply (state.mods.find (findExisting game.code "Default"))
  let gameMod := mergedEggMod existingMods gameMod
  (⟨state.games.save game, state.mods.save gameMod⟩,
    ⟨game, { gameMod with id := state.mods.idFor gameMod }⟩)

/-- `Import` of the Pelican importer, where no call of the stores fails. -/
def importEgg (orders : EggOrders) (state : GameStore driver) (egg : Option PelicanEgg)
    (opts : Option ImportOptions) : Except String (GameStore driver × EggImportResult) :=
  match egg with
  | none => .error "egg cannot be nil"
  | some egg => do
      if egg.name = "" then
        throw "egg name is required"
      prefixed "options validation failed" (ImportOptions.validate opts)
      let game := buildGame folding egg opts
      return saveEntities orders state game (buildGameMod orders.images egg game.code)

end

end ShadowPanel.Services
