import ShadowPanel.Api.Errors
import ShadowPanel.Data.Console
import ShadowPanel.Data.JsonText

namespace ShadowPanel.Rcon

open Api Data List

/-! The commands of `internal/api/servers/rcon/kickplayer` and
`pkg/quercon/rcon/players`. -/

structure Player where
  id : String
  name : String
  ping : String
  score : String
  addr : String
  uniqID : String

def playerCommand (start who reason : String) : String :=
  start ++ who ++ (if reason = "" then "" else " " ++ reason)

inductive PlayerManager where
  | valve
  | minecraft

namespace PlayerManager

def who : PlayerManager → Player → String
  | .valve => Player.uniqID
  | .minecraft => Player.name

section

variable (manager : PlayerManager)

def validate (player : Player) : Except String Unit :=
  if manager.who player = "" then
    match manager with
    | .valve => .error "player unique ID is required"
    | .minecraft => .error "player name is required"
  else .ok ()

def kickStart : PlayerManager → String
  | .valve => "kick #"
  | .minecraft => "kick "

def banStart (seconds : Int) : PlayerManager → String
  | .valve => "banid " ++ toString seconds ++ " #"
  | .minecraft => "ban "

def command (start : String) (player : Player) (reason : String) : Except String String :=
  match manager.validate player with
  | .error text => .error text
  | .ok _ => .ok (playerCommand start (manager.who player) reason)

def kickCommand (player : Player) (reason : String) : Except String String :=
  manager.command manager.kickStart player reason

def banCommand (player : Player) (reason : String) (seconds : Int) : Except String String :=
  manager.command (manager.banStart seconds) player reason

end

end PlayerManager

def newPlayerManagerByGameCode (gameCode : String) : Option PlayerManager :=
  if gameCode ∈ ["cs", "cstrike", "tfc", "dod", "gearbox", "hl", "valve"] then some .valve
  else if gameCode = "minecraft" then some .minecraft
  else none

structure KickRequest where
  player : Option Json
  reason : String
  durationInMinutes : Int

namespace KickRequest

variable (request : KickRequest)

def objectPlayer (value : Json) : Option Player := do
  let id ← Json.textField "id" value
  let name ← Json.textField "name" value
  let score ← Json.textField "score" value
  let ping ← Json.textField "ping" value
  let ip ← Json.textField "ip" value
  let uniqID ← Json.textField "uniqid" value
  some ⟨id, name, ping, score, ip, if uniqID = "" then id else uniqID⟩

/-- A text, and null as the empty one, is the identifier. -/
def toPlayer : Json → Except HandlerError Player
  | .string text => .ok ⟨String.ofList text, "", "", "", "", String.ofList text⟩
  | .null => .ok ⟨"", "", "", "", "", ""⟩
  | value =>
    match objectPlayer value with
    | some player => .ok player
    | none => .error ⟨400, "player must be a string ID or player object"⟩

end KickRequest

def buildCommand (seconds : Int → Int) (command : String) (manager : PlayerManager)
    (player : Player) (request : KickRequest) : Except String String :=
  if command = "kick" then manager.kickCommand player request.reason
  else manager.banCommand player request.reason (seconds request.durationInMinutes)

/-- The text that the handler gives to the RCON client, from the decoded request on.
`seconds` is the duration of so many minutes in seconds, which goes through a floating
point number. -/
def rconCommand (seconds : Int → Int) (command gameCode : String) (request : KickRequest) :
    Except HandlerError String :=
  if command ≠ "kick" ∧ command ≠ "ban" then
    .error ⟨404, "invalid command: must be 'kick' or 'ban'"⟩
  else
    match request.player with
    | none => .error ⟨400, "player is required"⟩
    | some value =>
      match newPlayerManagerByGameCode gameCode with
      | none => .error ⟨501, "player management not supported for this game: " ++
          "players management is not supported for this game"⟩
      | some manager =>
        match KickRequest.toPlayer value with
        | .error error => .error error
        | .ok player =>
          match buildCommand seconds command manager player request with
          | .error text => .error ⟨400, "failed to build command: " ++ text⟩
          | .ok text => .ok text

def SendsOneCommand (seconds : Int → Int) (command gameCode : String) (request : KickRequest) :
    Prop :=
  ∀ text, rconCommand seconds command gameCode request = .ok text →
    consoleCommands false text.toList = [text.toList]

/-- The text for the player and the reason have no line break, and each semicolon in them
comes after an odd number of double quotes. -/
def PlainInput (gameCode : String) (request : KickRequest) : Prop :=
  ∀ manager value player, newPlayerManagerByGameCode gameCode = some manager →
    request.player = some value → KickRequest.toPlayer value = .ok player →
      OneCommandAfter 0 (manager.who player).toList ∧
        OneCommandAfter ((manager.who player).toList.count '"') request.reason.toList

def IsPlain (text : List Char) : Prop :=
  ∀ char ∈ text, isLineBreak char = false ∧ char ≠ ';' ∧ char ≠ '"'

instance (text : List Char) : Decidable (IsPlain text) := decidableBAll _ text

namespace IsPlain

theorem append (plain : IsPlain text) (otherPlain : IsPlain other) : IsPlain (text ++ other) :=
  forall_mem_append.mpr ⟨plain, otherPlain⟩

theorem count_eq_zero (plain : IsPlain text) : text.count '"' = 0 :=
  List.count_eq_zero.mpr fun member => (plain '"' member).2.2 rfl

theorem oneCommandAfter (plain : IsPlain text) (quotes : Nat) : OneCommandAfter quotes text := by
  refine ⟨fun char member => (plain char member).1, ?_⟩
  intro before after split
  have semicolon : ';' ∈ text := split ▸ by simp
  exact absurd rfl (plain ';' semicolon).2.1

end IsPlain

theorem isPlain_of_isDigit (digits : ∀ char ∈ text, char.isDigit = true) :
    IsPlain text := by
  intro char member
  have digit := digits char member
  refine ⟨?_, ?_, ?_⟩
  · rw [isLineBreak, Bool.or_eq_false_iff, beq_eq_false_iff_ne, beq_eq_false_iff_ne]
    constructor <;> rintro rfl <;> cases digit
  · rintro rfl
    cases digit
  · rintro rfl
    cases digit

theorem isPlain_toString (number : Int) : IsPlain (toString number).toList := by
  have digits (natural : Nat) : IsPlain (toString natural).toList := by
    rw [Nat.toString_eq_ofList_toDigits, String.toList_ofList]
    refine isPlain_of_isDigit fun char member => ?_
    exact Nat.isDigit_of_mem_toDigits (by decide) (by decide) member
  cases number with
  | ofNat natural => exact digits natural
  | negSucc natural =>
    have signed : (toString (Int.negSucc natural)).toList =
        ['-'] ++ (toString (natural + 1)).toList := String.toList_append
    rw [signed]
    exact IsPlain.append (by decide) (digits (natural + 1))

theorem isPlain_kickStart (manager : PlayerManager) : IsPlain manager.kickStart.toList := by
  cases manager <;> decide

theorem isPlain_banStart (manager : PlayerManager) (seconds : Int) :
    IsPlain (manager.banStart seconds).toList := by
  cases manager with
  | minecraft =>
    change IsPlain "ban ".toList
    decide
  | valve =>
    have parts : (PlayerManager.valve.banStart seconds).toList =
        "banid ".toList ++ (toString seconds).toList ++ " #".toList := by
      rw [PlayerManager.banStart, String.toList_append, String.toList_append]
    rw [parts]
    exact (IsPlain.append (by decide) (isPlain_toString seconds)).append (by decide)

theorem eq_playerCommand_of_sent (sent : rconCommand seconds command gameCode request = .ok text) :
    ∃ manager value player start, newPlayerManagerByGameCode gameCode = some manager ∧
      request.player = some value ∧ KickRequest.toPlayer value = .ok player ∧
      IsPlain start.toList ∧ text = playerCommand start (manager.who player) request.reason := by
  have built {manager : PlayerManager} {start : String} {player : Player}
      (made : manager.command start player request.reason = .ok text) :
      text = playerCommand start (manager.who player) request.reason := by
    unfold PlayerManager.command at made
    split at made
    · cases made
    · exact (Except.ok.inj made).symm
  unfold rconCommand at sent
  split at sent
  · cases sent
  · split at sent
    · cases sent
    next value found =>
      split at sent
      · cases sent
      next manager supported =>
        split at sent
        · cases sent
        next player decoded =>
          split at sent
          · cases sent
          next made =>
            obtain rfl := Except.ok.inj sent
            unfold buildCommand at made
            split at made
            · exact ⟨manager, value, player, _, supported, found, decoded,
                isPlain_kickStart manager, built made⟩
            · exact ⟨manager, value, player, _, supported, found, decoded,
                isPlain_banStart manager _, built made⟩

theorem oneCommandAfter_playerCommand (plain : IsPlain start.toList) :
    OneCommandAfter 0 (playerCommand start who reason).toList ↔
      OneCommandAfter 0 who.toList ∧ OneCommandAfter (who.toList.count '"') reason.toList := by
  have ending (quotes : Nat) :
      OneCommandAfter quotes (if reason = "" then "" else " " ++ reason).toList ↔
        OneCommandAfter quotes reason.toList := by
    split
    next none => rw [none]
    next =>
      have blank : IsPlain " ".toList := by decide
      rw [String.toList_append, oneCommandAfter_append]
      exact and_iff_right (blank.oneCommandAfter quotes)
  rw [playerCommand, String.toList_append, String.toList_append, oneCommandAfter_append,
    oneCommandAfter_append, ending, List.count_append, plain.count_eq_zero, Nat.zero_add,
    Nat.zero_add, Nat.zero_add]
  exact and_congr_left' (and_iff_right (plain.oneCommandAfter 0))

theorem sendsOneCommand_iff {seconds : Int → Int} {command gameCode : String}
    {request : KickRequest} {text : String}
    (sent : rconCommand seconds command gameCode request = .ok text) :
    SendsOneCommand seconds command gameCode request ↔ PlainInput gameCode request := by
  obtain ⟨manager, value, player, start, supported, found, decoded, plain, rfl⟩ :=
    eq_playerCommand_of_sent sent
  have one : SendsOneCommand seconds command gameCode request ↔
      OneCommandAfter 0 (playerCommand start (manager.who player) request.reason).toList := by
    rw [← consoleCommands_eq_singleton_iff]
    refine ⟨fun holds => holds _ sent, ?_⟩
    intro holds text other
    rw [← Except.ok.inj (sent.symm.trans other)]
    exact holds
  rw [one, oneCommandAfter_playerCommand plain]
  constructor
  · intro holds otherManager otherValue otherPlayer otherSupported otherFound otherDecoded
    obtain rfl := Option.some.inj (supported.symm.trans otherSupported)
    obtain rfl := Option.some.inj (found.symm.trans otherFound)
    obtain rfl := Except.ok.inj (decoded.symm.trans otherDecoded)
    exact holds
  · exact fun holds => holds manager value player supported found decoded

def quotedReason : KickRequest := ⟨some (.string ['7']), "\"bye; \" now", 5⟩

theorem sendsOneCommand_iff_quotedReason :
    SendsOneCommand (· * 60) "ban" "cs" quotedReason ↔ PlainInput "cs" quotedReason :=
  have sent : rconCommand (· * 60) "ban" "cs" quotedReason = .ok "banid 300 #7 \"bye; \" now" := rfl
  sendsOneCommand_iff sent

theorem quit_in_reason :
    ¬SendsOneCommand (· * 60) "kick" "cs" ⟨some (.string ['7']), "bye; quit", 0⟩ := by
  intro holds
  have one := holds "kick #7 bye; quit" rfl
  revert one
  decide

end ShadowPanel.Rcon
