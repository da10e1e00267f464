import ShadowPanel.Data.Shell
import ShadowPanel.Domain.Nodes
import ShadowPanel.Domain.Servers

namespace ShadowPanel.Servers

open Data Domain List

/-! `ReplaceServerShortcodes` of `internal/domain/server.go` and the line that the console
handlers make of a typed command.  Texts are lists of characters. -/

section

variable (text : List Char)

def quote : List Char :=
  [apostrophe] ++ replaceAll [apostrophe] [apostrophe, '\\', apostrophe, apostrophe] text ++
    [apostrophe]

def shortcode (key : List Char) : List Char := '\x7b' :: key ++ ['\x7d']

def replaceMap (server : Server) (node : Node) : List (String × String) :=
  [("node_work_path", node.workPath), ("node_tools_path", node.workPath ++ "/tools"),
    ("host", server.serverIP),
    ("port", toString server.serverPort),
    ("query_port", server.queryPort.elim "" toString),
    ("rcon_port", server.rconPort.elim "" toString),
    ("user", server.suUser.getD ""),
    ("id", toString server.id),
    ("uuid", server.uid),
    ("uuid_short", String.ofList (server.uid.toList.take 8)),
    ("game", server.gameID),
    ("dir", server.dir)]

/-- A map is ranged over in an order that is different each time. -/
structure Iteration (entries : List (String × String)) where
  order : List (String × String)
  perm : order.Perm entries

def spellings (key : String) : List (List Char) :=
  [key.toList, key.toList.map Char.toLower, key.toList.map Char.toUpper]

def replaceEntry (entry : String × String) : List Char :=
  (spellings entry.1).foldl (fun text key => replaceAll (shortcode key) entry.2.toList text) text

def replaceExtra (entry : String × List Char) : List Char :=
  replaceAll (shortcode entry.1.toList) entry.2 text

def replaceServerShortcodes (iteration : Iteration (replaceMap server node)) (command : List Char)
    (extra : List (String × List Char)) : List Char :=
  iteration.order.foldl replaceEntry (extra.foldl replaceExtra command)

/-- What `sendConsoleCommand`, `sendLegacyInput` and `sendLegacyCommand` execute when the
node has a script. -/
def sendCommandLine (iteration : Iteration (replaceMap server node))
    (scriptSendCommand command : List Char) : List Char :=
  replaceServerShortcodes iteration scriptSendCommand [("command", quote command)]

def openPlaces (template : List Char) : List (Option Char) :=
  replaceAll ((shortcode "command".toList).map some) [none] (template.map some)

def fillEntry (line : List (Option Char)) (entry : String × String) : List (Option Char) :=
  (spellings entry.1).foldl
    (fun line key => replaceAll ((shortcode key).map some) (entry.2.toList.map some) line) line

/-- The line as the template means it: the values of the server are in it, and the places of
the command are still open. -/
def lineWithPlaces (iteration : Iteration (replaceMap server node)) (template : List Char) :
    List (Option Char) :=
  iteration.order.foldl fillEntry (openPlaces template)

/-- The shell splits the line as if the command stood at its places as it was typed. -/
def KeepsCommand (iteration : Iteration (replaceMap server node)) (template command : List Char) :
    Prop :=
  shellTokens ((sendCommandLine iteration template command).map some) =
    (shellTokens (lineWithPlaces iteration template)).map fun tokens =>
      tokens.map (Token.fill command)

def HasPlace (template : List Char) : Prop := shortcode "command".toList <:+: template

def shortcodeKeys : List String :=
  ["node_work_path", "node_tools_path", "host", "port", "query_port", "rcon_port", "user", "id",
    "uuid", "uuid_short", "game", "dir"]

def MentionsShortcode : Prop :=
  ∃ key ∈ shortcodeKeys, ∃ spelling ∈ spellings key, shortcode spelling <:+: text

def OutsideQuotes (line : List (Option Char)) : Prop := (Reader.gap .nothing []).OutsideQuotes line

theorem shortcode_ne_nil (key : List Char) : shortcode key ≠ [] := cons_ne_nil _ _

theorem quote_eq_singleQuoted : quote text = singleQuoted text := by
  rw [quote, replaceAll_singleton]
  rfl

end

variable (iteration : Iteration (replaceMap server node))

private theorem plain_of_mem_spellings : ∀ key ∈ shortcodeKeys, ∀ spelling ∈ spellings key,
    apostrophe ∉ shortcode spelling ∧ '\\' ∉ shortcode spelling := by
  decide

private theorem fenced_quote {key : String} (spelling : List Char) {command : List Char}
    (known : key ∈ shortcodeKeys) (member : spelling ∈ spellings key)
    (free : ¬MentionsShortcode command) :
    Fenced (shortcode spelling) (quote command) apostrophe := by
  obtain ⟨absent, noBackslash⟩ := plain_of_mem_spellings key known spelling member
  rw [quote_eq_singleQuoted]
  refine ⟨absent, rfl, ?_, ?_⟩
  · rw [singleQuoted, ← cons_append, getLast?_concat]
  · intro occurs
    exact free ⟨key, known, spelling, member,
      infix_of_infix_singleQuoted (shortcode_ne_nil _) absent noBackslash occurs⟩

private theorem replaceEntry_insertPiece (known : entry.1 ∈ shortcodeKeys)
    (free : ¬MentionsShortcode command) (line : List (Option Char)) :
    replaceEntry (insertPiece (quote command) line) entry =
      insertPiece (quote command) (fillEntry line entry) := by
  have fenced := fun spelling member => fenced_quote spelling known member free
  rw [replaceEntry, fillEntry]
  generalize spellings entry.1 = keys at fenced
  induction keys generalizing line with
  | nil => rfl
  | cons key keys ih =>
    rw [foldl_cons,
      replaceAll_insertPiece (shortcode_ne_nil key) (fenced key mem_cons_self)]
    exact ih _ fun spelling member => fenced spelling (mem_cons_of_mem key member)

private theorem foldl_replaceEntry_insertPiece {order : List (String × String)}
    {command : List Char} (known : ∀ entry ∈ order, entry.1 ∈ shortcodeKeys)
    (free : ¬MentionsShortcode command) (line : List (Option Char)) :
    order.foldl replaceEntry (insertPiece (quote command) line) =
      insertPiece (quote command) (order.foldl fillEntry line) := by
  induction order generalizing line with
  | nil => rfl
  | cons entry order ih =>
    rw [foldl_cons,
      replaceEntry_insertPiece (known entry mem_cons_self) free]
    exact ih (fun other member => known other (mem_cons_of_mem entry member)) _

private theorem sendCommandLine_eq {template command : List Char}
    (free : ¬MentionsShortcode command) :
    sendCommandLine iteration template command =
      insertPiece (quote command) (lineWithPlaces iteration template) := by
  have known : ∀ entry ∈ iteration.order, entry.1 ∈ shortcodeKeys :=
    fun entry member => mem_map_of_mem (iteration.perm.mem_iff.mp member)
  rw [lineWithPlaces, ← foldl_replaceEntry_insertPiece known free, openPlaces,
    insertPiece_replaceAll (shortcode_ne_nil _)]
  rfl

private theorem fillEntry_map_some (text : List Char) (entry : String × String) :
    fillEntry (text.map some) entry = (replaceEntry text entry).map some := by
  rw [fillEntry, replaceEntry]
  induction spellings entry.1 generalizing text with
  | nil => rfl
  | cons key keys ih =>
    rw [foldl_cons, foldl_cons, replaceAll_map_some, ih]

private theorem foldl_fillEntry_map_some (order : List (String × String)) (text : List Char) :
    order.foldl fillEntry (text.map some) = (order.foldl replaceEntry text).map some := by
  induction order generalizing text with
  | nil => rfl
  | cons entry order ih =>
    rw [foldl_cons, foldl_cons, fillEntry_map_some, ih]

private theorem lineWithPlaces_of_no_place (none : ¬HasPlace template) (command : List Char) :
    lineWithPlaces iteration template = (sendCommandLine iteration template command).map some := by
  have unchanged : openPlaces template = template.map some :=
    replaceAll_eq_self fun marked => none (infix_of_infix_map_some marked)
  have same : replaceExtra template ("command", quote command) = template := replaceAll_eq_self none
  rw [lineWithPlaces, unchanged, foldl_fillEntry_map_some, sendCommandLine,
    replaceServerShortcodes, foldl_cons, same]
  rfl

/-- Every command keeps its text that has no shortcode of the server in it, as long as the
values of the server leave its places outside quotes. -/
theorem keepsCommand_of_no_shortcode (iteration : Iteration (replaceMap server node))
    (template command : List Char) (free : HasPlace template → ¬MentionsShortcode command)
    (outside : OutsideQuotes (lineWithPlaces iteration template)) :
    KeepsCommand iteration template command := by
  by_cases place : HasPlace template
  · rw [KeepsCommand, sendCommandLine_eq iteration (free place), quote_eq_singleQuoted]
    exact shellTokens_insertPiece command outside
  · have filled := shellTokens_insertPiece command outside
    rw [lineWithPlaces_of_no_place iteration place command, insertPiece_map_some] at filled
    rw [KeepsCommand, lineWithPlaces_of_no_place iteration place command]
    exact filled

def arenaServer : Server :=
  { (default : Server) with id := 4, serverIP := "10.0.0.2", serverPort := 27015, dir := "arena" }

def arenaNode : Node where
  id := 1
  enabled := true
  name := "node"
  os := .linux
  location := "home"
  provider := none
  ips := ["10.0.0.2"]
  workPath := "/srv"
  steamcmdPath := none
  gdaemonHost := "10.0.0.2"
  gdaemonPort := 31717
  gdaemonAPIKey := ""
  gdaemonAPIToken := none
  gdaemonServerCert := ""
  clientCertificateID := 0
  preferInstallMethod := .auto
  createdAt := none
  updatedAt := none
  deletedAt := none

def sourceOrder : Iteration (replaceMap arenaServer arenaNode) :=
  ⟨replaceMap arenaServer arenaNode, List.Perm.refl _⟩

def sendTemplate : List Char :=
  "\x7bnode_tools_path\x7d/send.sh -d \x7bdir\x7d -c \x7bcommand\x7d".toList

theorem outsideQuotes_sendTemplate : OutsideQuotes (lineWithPlaces sourceOrder sendTemplate) := by
  unfold OutsideQuotes
  decide +kernel

def typedCommand : List Char := "say it's \x7bon\x7d; rm".toList

theorem keepsCommand_of_no_shortcode_apostrophe : ¬MentionsShortcode typedCommand ∧
    OutsideQuotes (lineWithPlaces sourceOrder sendTemplate) ∧
    KeepsCommand sourceOrder sendTemplate typedCommand := by
  have free : ¬MentionsShortcode typedCommand := by
    unfold MentionsShortcode
    decide +kernel
  refine ⟨free, outsideQuotes_sendTemplate, ?_⟩
  exact keepsCommand_of_no_shortcode sourceOrder sendTemplate typedCommand (fun _ => free)
    outsideQuotes_sendTemplate

theorem host_in_command_replaced : OutsideQuotes (openPlaces sendTemplate) ∧
    OutsideQuotes (lineWithPlaces sourceOrder sendTemplate) ∧
    ¬KeepsCommand sourceOrder sendTemplate "say \x7bhost\x7d".toList := by
  have template : OutsideQuotes (openPlaces sendTemplate) := by
    unfold OutsideQuotes
    decide +kernel
  refine ⟨template, outsideQuotes_sendTemplate, ?_⟩
  unfold KeepsCommand
  decide +kernel

end ShadowPanel.Servers
