import ShadowPanel.Services.PelicanEggs

namespace ShadowPanel.Games

open Data Domain Repositories Services Validation Braces

/-! The games of imported eggs, as exports. -/

private theorem dashed_chars (prevDash : Bool) (text : List Char) :
    ∀ char ∈ dashed prevDash text, isSlugLetter char = true ∨ char = '-' := by
  induction text generalizing prevDash with
  | nil => exact fun char member => absurd member List.not_mem_nil
  | cons first rest ih =>
    rw [dashed]
    split
    next letter => exact List.forall_mem_cons.mpr ⟨.inl letter, ih false⟩
    next =>
      split
      · exact ih true
      · exact List.forall_mem_cons.mpr ⟨.inr rfl, ih true⟩

theorem mem_of_mem_trimRight (member : char ∈ trimRight mark text) : char ∈ text := by
  rw [trimRight, List.mem_reverse] at member
  exact List.mem_reverse.mp ((List.dropWhile_sublist _).mem member)

private theorem length_trimRight_le (mark : Char) (text : List Char) :
    (trimRight mark text).length ≤ text.length := by
  rw [trimRight, List.length_reverse]
  exact (List.dropWhile_sublist _).length_le.trans_eq List.length_reverse

private theorem slugify_chars (folding : NameFolding) (name : String) :
    ∀ char ∈ slugify folding name, isSlugLetter char = true ∨ char = '-' := by
  intro char member
  exact dashed_chars false _ char ((List.dropWhile_sublist _).mem (mem_of_mem_trimRight member))

private theorem isSlugChar_of_code (member : char ∈ replaceAll ['-'] ['_'] (slugify folding name)) :
    isSlugChar char = true := by
  rw [replaceAll_singleton, List.mem_flatMap] at member
  obtain ⟨old, oldMember, inside⟩ := member
  split at inside
  · rw [List.mem_singleton.mp inside]
    rfl
  next other =>
    rw [List.mem_singleton.mp inside]
    have letter := (slugify_chars folding name old oldMember).resolve_right other
    simp only [isSlugLetter, Bool.or_eq_true] at letter
    simp only [isSlugChar, Bool.or_eq_true]
    exact .inl (.inl letter)

private theorem utf8Size_of_isSlugChar (slug : isSlugChar char = true) : char.utf8Size = 1 := by
  rw [Char.utf8Size_eq_one_iff]
  simp only [isSlugChar, Bool.or_eq_true, Bool.and_eq_true, decide_eq_true_eq, beq_iff_eq] at slug
  have below {limit : Char} (less : char ≤ limit) (ascii : limit.val ≤ 127) : char.val ≤ 127 :=
    UInt32.le_trans (Char.le_def.mp less) ascii
  obtain ((letter | digit) | underscore) | dash := slug
  · exact below letter.2 (by decide)
  · exact below digit.2 (by decide)
  · rw [underscore]
    decide
  · rw [dash]
    decide

structure ValidCode (code : String) : Prop where
  least : 2 ≤ code.utf8ByteSize
  most : code.utf8ByteSize ≤ 16
  slug : isSlug code = true

private theorem validCode_generateGameCode (folding : NameFolding) (name : String) :
    ValidCode (generateGameCode folding name) := by
  unfold generateGameCode
  dsimp only
  generalize cut : (if 16 < (replaceAll ['-'] ['_'] (slugify folding name)).length then
    (replaceAll ['-'] ['_'] (slugify folding name)).take 16
    else replaceAll ['-'] ['_'] (slugify folding name)) = code
  have short : code.length ≤ 16 := by
    rw [← cut]
    split
    · exact List.length_take_le _ _
    · omega
  have slug : ∀ char ∈ trimRight '_' code, isSlugChar char = true := by
    intro char member
    have inCode := mem_of_mem_trimRight member
    rw [← cut] at inCode
    split at inCode
    · exact isSlugChar_of_code (List.mem_of_mem_take inCode)
    · exact isSlugChar_of_code inCode
  split
  · exact ⟨by decide, by decide, by decide⟩
  next long =>
    have size : (String.ofList (trimRight '_' code)).utf8ByteSize = (trimRight '_' code).length :=
      utf8ByteSize_of_ascii fun char member => utf8Size_of_isSlugChar (slug char member)
    have trimmed := length_trimRight_le '_' code
    refine ⟨?_, ?_, ?_⟩
    · omega
    · omega
    · rw [isSlug, String.toList_ofList]
      exact List.all_eq_true.mpr slug

def isBodyChar (char : Char) : Bool := isEnvChar char || 'a' ≤ char && char ≤ 'z' || char == '.'

def IsAddress (name : List Char) : Prop := name = "port".toList ∨ name = "ip".toList

def IsName (name : List Char) : Prop := IsAddress name ∨ isEnvName name = true

structure Known (names : List Char → Prop) (value : List Char → Option (List Char)) : Prop where
  body : ∀ body name, value body = some name → ∀ char ∈ body, isBodyChar char = true
  name : ∀ body name, value body = some name → names name

variable {first : List Char → Option (List Char)} {names : List Char → Prop} (startup : List Char)

theorem Known.mono (known : Known names value) (within : ∀ name, names name → wider name) :
    Known wider value :=
  ⟨known.body, fun body name hasValue => within name (known.name body name hasValue)⟩

theorem known_either (knownFirst : Known names first) (knownSecond : Known names second) :
    Known names (Braces.either first second) := by
  constructor
  · intro body name hasValue
    cases Option.or_eq_some_iff.mp hasValue with
    | inl found => exact knownFirst.body body name found
    | inr found => exact knownSecond.body body name found.2
  · intro body name hasValue
    cases Option.or_eq_some_iff.mp hasValue with
    | inl found => exact knownFirst.name body name found
    | inr found => exact knownSecond.name body name found.2

theorem known_literal (bodyChars : body.toList.all isBodyChar = true)
    (isAddress : IsAddress name.toList) : Known IsAddress (literal body name) := by
  constructor
  · intro text found hasValue
    unfold literal at hasValue
    split at hasValue
    next same => exact same ▸ List.all_eq_true.mp bodyChars
    next => cases hasValue
  · intro text found hasValue
    unfold literal at hasValue
    split at hasValue
    · cases hasValue
      exact isAddress
    · cases hasValue

theorem isBodyChar_of_isEnvName (env : isEnvName name = true) :
    ∀ char ∈ name, isBodyChar char = true := by
  cases name with
  | nil => cases env
  | cons first rest =>
    simp only [isEnvName, Bool.and_eq_true, List.all_eq_true] at env
    refine List.forall_mem_cons.mpr ⟨?_, ?_⟩
    · simp [isBodyChar, isEnvChar, env.1]
    · intro char member
      simp [isBodyChar, env.2 char member]

theorem known_envVar : Known IsName envVar := by
  constructor
  · intro body name hasValue
    unfold envVar at hasValue
    split at hasValue
    next env => exact isBodyChar_of_isEnvName env
    next => cases hasValue
  · intro body name hasValue
    unfold envVar at hasValue
    split at hasValue
    next env =>
      cases hasValue
      exact .inr env
    next => cases hasValue

private theorem known_serverEnv : Known IsName serverEnv := by
  constructor
  · intro body name hasValue char member
    unfold serverEnv at hasValue
    split at hasValue
    next starts =>
      rw [← List.prefix_iff_eq_append.mp (List.isPrefixOf_iff_prefix.mp starts),
        List.mem_append] at member
      cases member with
      | inl inStart => exact List.all_eq_true.mp (by decide) char inStart
      | inr inName => exact known_envVar.body _ _ hasValue char inName
    next => cases hasValue
  · intro body name hasValue
    unfold serverEnv at hasValue
    split at hasValue
    next => exact known_envVar.name _ _ hasValue
    next => cases hasValue

def address : List Char → Option (List Char) :=
  Braces.either
    (Braces.either
      (Braces.either (literal "server.build.default.port" "port")
        (literal "server.build.env.PORT" "port"))
      (literal "server.build.default.ip" "ip"))
    (literal "server.build.env.SERVER_IP" "ip")

def placeholder : List Char → Option (List Char) :=
  Braces.either (Braces.either address envVar) serverEnv

theorem known_port (body : String) (bodyChars : body.toList.all isBodyChar = true) :
    Known IsAddress (literal body "port") := known_literal bodyChars (.inl rfl)

theorem known_ip (body : String) (bodyChars : body.toList.all isBodyChar = true) :
    Known IsAddress (literal body "ip") := known_literal bodyChars (.inr rfl)

private theorem isPlain_of_isBodyChar (isBody : isBodyChar char = true) :
    curly.isPlain char = true := by
  rw [isPlain, Bool.and_eq_true, bne_iff_ne, bne_iff_ne]
  refine ⟨?_, ?_⟩
  · intro same
    rw [same] at isBody
    revert isBody
    decide
  · intro same
    rw [same] at isBody
    revert isBody
    decide

theorem IsName.bodyChars (isName : IsName name) : ∀ char ∈ name, isBodyChar char = true := by
  obtain (isPort | isIP) | env := isName
  · rw [isPort]
    exact List.all_eq_true.mp (by decide)
  · rw [isIP]
    exact List.all_eq_true.mp (by decide)
  · exact isBodyChar_of_isEnvName env

theorem separate_of_known (known : Known names first) (within : ∀ name, names name → IsName name)
    (fresh : ∀ name, names name → second name = none) : Braces.Separate curly first second where
  plain body name hasValue char member :=
    isPlain_of_isBodyChar ((within name (known.name body name hasValue)).bodyChars char member)
  fresh body name hasValue := fresh name (known.name body name hasValue)

private theorem separate_literal (known : Known IsAddress first) (other : ¬IsAddress body.toList) :
    Braces.Separate curly first (literal body name) := by
  refine separate_of_known known (fun _ => Or.inl) ?_
  intro text isAddress
  rw [literal, if_neg]
  intro same
  exact other (same ▸ isAddress)

theorem known_address : Known IsAddress address :=
  known_either (known_either (known_either (known_port _ (by decide)) (known_port _ (by decide)))
    (known_ip _ (by decide))) (known_ip _ (by decide))

private theorem known_placeholder : Known IsName placeholder :=
  known_either (known_either (known_address.mono fun _ => Or.inl) known_envVar) known_serverEnv

private theorem envVar_of_isAddress (isAddress : IsAddress name) : envVar name = none := by
  obtain rfl | rfl := isAddress <;> rfl

private theorem serverEnv_of_isName (isName : IsName name) : serverEnv name = none := by
  obtain (rfl | rfl) | env := isName
  · rfl
  · rfl
  · rw [serverEnv, if_neg]
    intro starts
    obtain ⟨rest, same⟩ := List.isPrefixOf_iff_prefix.mp starts
    rw [← same] at env
    cases env

theorem replacePlaceholders_eq :
    replacePlaceholders startup = curly.substitute placeholder startup := by
  have first := known_port "server.build.default.port" (by decide)
  have port := known_either first (known_port "server.build.env.PORT" (by decide))
  have ip := known_either port (known_ip "server.build.default.ip" (by decide))
  have env : Known IsName (either address envVar) :=
    known_either (known_address.mono fun _ => Or.inl) known_envVar
  rw [replacePlaceholders,
    substitute_substitute (separate_literal first (by unfold IsAddress; decide)),
    substitute_substitute (separate_literal port (by unfold IsAddress; decide)),
    substitute_substitute (separate_literal ip (by unfold IsAddress; decide))]
  change curly.substitute serverEnv (curly.substitute envVar (curly.substitute address startup)) = _
  rw [substitute_substitute (separate_of_known known_address (fun _ => Or.inl)
      fun _ => envVar_of_isAddress),
    substitute_substitute (separate_of_known env (fun _ => id) fun _ => serverEnv_of_isName)]
  rfl

def shellChars : List Char := ['&', '|', ';', '>', '<', backtick, '$', '(', '"']

theorem outside_shellChars : Braces.Outside curly placeholder (· ∈ shellChars) := by
  have apart : ∀ char ∈ shellChars, (!isBodyChar char) = true := List.all_eq_true.mp (by decide)
  refine ⟨by decide, by decide, ?_, ?_⟩
  · intro body name hasValue char member isShell
    have shell := apart char isShell
    rw [known_placeholder.body body name hasValue char member] at shell
    cases shell
  · intro body name hasValue char member isShell
    have shell := apart char isShell
    rw [(known_placeholder.name body name hasValue).bodyChars char member] at shell
    cases shell

private theorem needsShellWrapper_replacePlaceholders :
    needsShellWrapper (replacePlaceholders startup) = needsShellWrapper startup := by
  rw [replacePlaceholders_eq, Bool.eq_iff_iff, needsShellWrapper, needsShellWrapper,
    List.any_eq_true, List.any_eq_true]
  have chars : ∀ operator ∈ shellOperators,
      (!operator.isEmpty && operator.all shellChars.contains) = true :=
    List.all_eq_true.mp (by decide)
  have same : ∀ operator ∈ shellOperators,
      operator <:+: curly.substitute placeholder startup ↔ operator <:+: startup := by
    intro operator member
    have all := chars operator member
    cases operator with
    | nil => cases all
    | cons first rest =>
      refine infix_substitute_iff outside_shellChars ?_ startup
      intro char inOperator
      have known := List.all_eq_true.mp (Bool.and_eq_true_iff.mp all).2 char inOperator
      exact List.contains_iff_mem.mp known
  simp only [occursIn_iff]
  exact exists_congr fun operator => and_congr_right fun member => same operator member

def bytes (text : List Char) : Nat := total Char.utf8Size text

private theorem bytes_replaceAll_quote (text : List Char) :
    bytes (replaceAll ['"'] ['\\', '"'] text) = bytes text + text.count '"' := by
  rw [replaceAll_singleton, bytes, bytes]
  induction text with
  | nil => rfl
  | cons char rest ih =>
    rw [List.flatMap_cons]
    have one : ('"' : Char).utf8Size = 1 ∧ ('\\' : Char).utf8Size = 1 := by decide
    split
    next same => simp [total, same]; omega
    next other => simp [total, other]; omega

/-- The bytes of the command: a placeholder counts as its name in single braces, and the shell
adds its own call and an escape for every quote. -/
def commandBytes (startup : List Char) : Nat :=
  curly.weight placeholder Char.utf8Size startup +
    if needsShellWrapper startup then 13 + startup.count '"' else 0

private theorem bytes_append (left right : List Char) :
    bytes (left ++ right) = bytes left + bytes right :=
  total_append _ left right

private theorem bytes_wrapInShell (cmd : List Char) :
    bytes (wrapInShell cmd) = bytes cmd + (13 + cmd.count '"') := by
  have call : bytes "/bin/sh -c \"".toList = 12 := by decide +kernel
  have quote : bytes ['"'] = 1 := by decide
  calc bytes (wrapInShell cmd)
      = bytes "/bin/sh -c \"".toList + bytes (replaceAll ['"'] ['\\', '"'] cmd) + bytes ['"'] :=
        (bytes_append _ _).trans (congrArg (· + bytes ['"']) (bytes_append _ _))
    _ = 12 + (bytes cmd + cmd.count '"') + 1 := by rw [call, quote, bytes_replaceAll_quote]
    _ = bytes cmd + (13 + cmd.count '"') := by omega

private theorem count_quote_replacePlaceholders :
    (replacePlaceholders startup).count '"' = startup.count '"' := by
  rw [replacePlaceholders_eq]
  exact count_substitute outside_shellChars (by decide) startup

private theorem utf8ByteSize_transformStartupCommand (startup : String) :
    (transformStartupCommand startup).utf8ByteSize = commandBytes startup.toList := by
  have placed : curly.weight placeholder Char.utf8Size startup.toList =
      bytes (replacePlaceholders startup.toList) := by
    rw [replacePlaceholders_eq]
    exact weightFrom_eq _ 0 _
  rw [transformStartupCommand, utf8ByteSize_ofList_eq_total, needsShellWrapper_replacePlaceholders,
    commandBytes, placed, ← count_quote_replacePlaceholders]
  cases needsShellWrapper startup.toList with
  | true => exact bytes_wrapInShell _
  | false => exact (Nat.add_zero _).symm

structure EggFits (egg : PelicanEgg) (opts : Option ImportOptions) : Prop where
  name : opts.bind ImportOptions.name = none →
    2 ≤ egg.name.utf8ByteSize ∧ egg.name.utf8ByteSize ≤ maxGameNameLength
  command : commandBytes egg.getStartupCommand.toList ≤ maxStartCmdLength

def ExportsValid (result : EggImportResult) : Prop :=
  ∀ (exportedAt version : String) (order : Reordering LimitedText),
    (newGameExportFromDomain exportedAt version result.game [result.gameMod]).validate order =
      .ok ()

private theorem exists_mergedGame (existing : List Game) (game : Game) :
    ∃ metadata, mergedGame existing game = { game with metadata := metadata } := by
  cases existing with
  | nil => exact ⟨game.metadata, rfl⟩
  | cons first rest => exact ⟨_, rfl⟩

private theorem exists_mergedEggMod (existing : List GameMod) (mod : GameMod) (id : Nat) :
    ∃ metadata, { mergedEggMod existing mod with id := id } =
      { mod with id := id, metadata := metadata } := by
  cases existing with
  | nil => exact ⟨mod.metadata, rfl⟩
  | cons first rest => exact ⟨mergeMetadata first.metadata mod.metadata, rfl⟩

section

variable {folding : NameFolding} {orders : EggOrders} {egg : PelicanEgg}
  {opts : Option ImportOptions}

private theorem exists_of_importEgg
    (imported : importEgg folding orders state (some egg) opts = .ok (after, result)) :
    ImportOptions.validate opts = .ok () ∧
      (∃ metadata, result.game = { buildGame folding egg opts with metadata := metadata }) ∧
      ∃ id metadata, result.gameMod =
        { buildGameMod orders.images egg (buildGame folding egg opts).code with
          id := id
          metadata := metadata } := by
  unfold importEgg at imported
  dsimp only at imported
  by_cases unnamed : egg.name = ""
  · rw [if_pos unnamed] at imported
    cases imported
  · rw [if_neg unnamed] at imported
    cases checked : ImportOptions.validate opts with
    | error text =>
      rw [checked] at imported
      cases imported
    | ok accepted =>
      rw [checked] at imported
      have saved := (Prod.mk.inj (Except.ok.inj imported)).2
      rw [← saved]
      exact ⟨rfl, exists_mergedGame _ _, _, exists_mergedEggMod _ _ _⟩

section

variable (accepted : ImportOptions.validate opts = .ok ())

include accepted

private theorem validCode_buildGame (folding : NameFolding) (egg : PelicanEgg) :
    ValidCode (buildGame folding egg opts).code := by
  have isCode : (buildGame folding egg opts).code =
      (opts.bind ImportOptions.code).getD (generateGameCode folding egg.name) := rfl
  rw [isCode]
  cases given : opts.bind ImportOptions.code with
  | none =>
    rw [Option.getD_none]
    exact validCode_generateGameCode folding egg.name
  | some code =>
    obtain ⟨opts, rfl, isGiven⟩ := Option.bind_eq_some_iff.mp given
    have checks := firstFailure_eq_ok_iff.mp accepted
    simp only [ImportOptions.checks, List.forall_mem_cons, isGiven, Option.all_some,
      ImportOptions.hasLength, Bool.and_eq_true, decide_eq_true_eq] at checks
    exact ⟨checks.1.1, checks.1.2, checks.2.1⟩

private theorem name_buildGame_iff (folding : NameFolding) (egg : PelicanEgg) :
    (2 ≤ (buildGame folding egg opts).name.utf8ByteSize ∧
        (buildGame folding egg opts).name.utf8ByteSize ≤ maxGameNameLength) ↔
      (opts.bind ImportOptions.name = none →
        2 ≤ egg.name.utf8ByteSize ∧ egg.name.utf8ByteSize ≤ maxGameNameLength) := by
  cases given : opts.bind ImportOptions.name with
  | none => simp [buildGame, given]
  | some name =>
    obtain ⟨opts, rfl, isName⟩ := Option.bind_eq_some_iff.mp given
    have checks := firstFailure_eq_ok_iff.mp accepted
    simp only [ImportOptions.checks, List.forall_mem_cons, isName, Option.all_some,
      ImportOptions.hasLength, Bool.and_eq_true, decide_eq_true_eq] at checks
    have fits : 2 ≤ name.utf8ByteSize ∧ name.utf8ByteSize ≤ maxGameNameLength := checks.2.2.1
    simp [buildGame, given, fits]

private theorem checks_buildGame_iff (folding : NameFolding) (egg : PelicanEgg)
    (metadata : Metadata) :
    (∀ check ∈ (newGameExportGame
        { buildGame folding egg opts with metadata := metadata }).checks, check.1 = true) ↔
      2 ≤ (buildGame folding egg opts).name.utf8ByteSize ∧
        (buildGame folding egg opts).name.utf8ByteSize ≤ maxGameNameLength := by
  have code := validCode_buildGame accepted folding egg
  have named : (buildGame folding egg opts).code ≠ "" := by
    intro empty
    have least := code.least
    rw [empty] at least
    exact absurd least (by decide)
  constructor
  · intro all
    simp only [GameExportGame.checks, List.forall_mem_cons, Bool.and_eq_true,
      decide_eq_true_eq] at all
    exact all.2.2.2.2.1
  · intro ⟨least, most⟩
    have nameGiven : (buildGame folding egg opts).name ≠ "" := by
      intro empty
      rw [empty] at least
      exact absurd least (by decide)
    have engine : (buildGame folding egg opts).engine ≠ "" := (by decide : "pelican" ≠ "")
    simp only [GameExportGame.checks, List.forall_mem_cons, Bool.and_eq_true, decide_eq_true_eq,
      bne_iff_ne]
    exact ⟨named, ⟨code.least, code.most⟩, code.slug, nameGiven, ⟨least, most⟩, engine, rfl,
      rfl, rfl, rfl, rfl, rfl, rfl, List.forall_mem_nil _⟩

end

def startOnly (vars : Option (List GameExportModVar)) (metadata : Metadata) (command : String) :
    GameExportMod where
  name := "Default"
  fastRcon := none
  vars := vars
  remoteRepositoryLinux := none
  remoteRepositoryWindows := none
  localRepositoryLinux := none
  localRepositoryWindows := none
  startCmdLinux := some command
  startCmdWindows := none
  kickCmd := none
  banCmd := none
  chnameCmd := none
  srestartCmd := none
  chmapCmd := none
  sendmsgCmd := none
  passwdCmd := none
  metadata := metadata

private theorem valid_startOnly_iff (vars : Option (List GameExportModVar)) (metadata : Metadata)
    (command : String) :
    (startOnly vars metadata command).Valid ↔ command.utf8ByteSize ≤ maxStartCmdLength := by
  have texts : (∀ limited ∈ (startOnly vars metadata command).texts .kept, limited.fits = true) ↔
      command.utf8ByteSize ≤ maxStartCmdLength := by
    simp [GameExportMod.texts, GameExportMod.commands, Reordering.kept, startOnly,
      LimitedText.fits, isWithin]
  constructor
  · intro valid
    exact texts.mp valid.texts
  · intro fits
    exact ⟨(by decide : "Default" ≠ ""), (by decide : "Default".utf8ByteSize ≤ 255), texts.mpr fits⟩

private theorem valid_buildGameMod_iff (orders : EggOrders) (egg : PelicanEgg) (gameCode : String)
    (id : Nat) (metadata : Metadata) :
    (newGameExportModFromDomain { buildGameMod orders.images egg gameCode with
        id := id
        metadata := metadata }).Valid ↔
      commandBytes egg.getStartupCommand.toList ≤ maxStartCmdLength := by
  rw [← utf8ByteSize_transformStartupCommand]
  exact valid_startOnly_iff _ metadata _

end

theorem exportsValid_iff_eggFits (driver : UserDriver) (folding : NameFolding) (orders : EggOrders)
    (state after : GameStore driver) (egg : PelicanEgg) (opts : Option ImportOptions)
    (result : EggImportResult)
    (imported : importEgg folding orders state (some egg) opts = .ok (after, result)) :
    ExportsValid result ↔ EggFits egg opts := by
  obtain ⟨accepted, ⟨gameMetadata, isGame⟩, id, metadata, isMod⟩ := exists_of_importEgg imported
  have game := checks_buildGame_iff accepted folding egg gameMetadata
  have name := name_buildGame_iff accepted folding egg
  have mod := valid_buildGameMod_iff orders egg (buildGame folding egg opts).code id metadata
  rw [← isGame] at game
  rw [← isMod] at mod
  constructor
  · intro exports
    have valid := GameExport.validate_eq_ok_iff.mp (exports "" "" .kept)
    exact ⟨name.mp (game.mp valid.game), mod.mp (valid.mods _ (List.mem_singleton_self _))⟩
  · intro fits exportedAt version order
    refine GameExport.validate_eq_ok_iff.mpr ⟨rfl, game.mpr (name.mpr fits.name), ?_, ?_⟩
    · exact List.forall_mem_singleton.mpr (mod.mpr fits.command)
    · exact List.pairwise_singleton _ _

def asciiFolding : NameFolding where
  normalized := id
  toLower name := String.ofList (name.toList.map Char.toLower)

def keptEggOrders : EggOrders where
  images := .kept
  games := .kept
  mods := .kept

def noGames : GameStore .inMemory where
  games := ⟨[], .nil⟩
  mods := ⟨[], 0, .nil, fun _ member => absurd member List.not_mem_nil⟩

def simpleEgg (name startup : String) : PelicanEgg where
  name := name
  dockerImages := [("java", "ghcr.io/java:21")]
  startup := startup
  startupCommands _ := none
  startupDone := "Done"
  installation := ⟨"", "", ""⟩
  eggVariables := [⟨"Jar", "", "SERVER_JARFILE", "server.jar", true⟩]
  raw := .null

theorem exportsValid_minecraft :
    ∃ after result, importEgg asciiFolding keptEggOrders noGames
        (some (simpleEgg "Minecraft" "java -jar \x7b\x7bSERVER_JARFILE\x7d\x7d && exit")) none =
          .ok (after, result) ∧ ExportsValid result :=
  ⟨_, _, rfl, (exportsValid_iff_eggFits .inMemory asciiFolding keptEggOrders noGames _
    (simpleEgg "Minecraft" "java -jar \x7b\x7bSERVER_JARFILE\x7d\x7d && exit") none _ rfl).mpr
    ⟨fun _ => by decide +kernel, by decide +kernel⟩⟩

def cyrillicName : String := String.ofList (List.replicate 65 'ж')

def exportError {driver : UserDriver}
    (imported : Except String (GameStore driver × EggImportResult)) : Option String :=
  match imported with
  | .error _ => none
  | .ok (_, result) =>
    match (newGameExportFromDomain "" "" result.game [result.gameMod]).validate .kept with
    | .error text => some text
    | .ok _ => none

theorem cyrillic_name_not_exportable :
    exportError (importEgg asciiFolding keptEggOrders noGames
      (some (simpleEgg cyrillicName "./run")) none) =
        some "game validation failed: game.name must be between 2 and 128 characters" := by
  decide +kernel

end ShadowPanel.Games
