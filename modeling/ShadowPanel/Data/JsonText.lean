import ShadowPanel.Data.Json

namespace ShadowPanel.Data.Json

/-! Reading JSON texts: the first value of a stream, a text that is one value,
and the text fields of a record. -/

def isBlank (character : Char) : Bool :=
  character = ' ' || character = '\t' || character = '\r' || character = '\n'

def skipBlanks (text : List Char) : List Char := text.dropWhile isBlank

def rawString : List Char → Option (List Char × List Char)
  | [] => none
  | first :: rest =>
    if first = '"' then some ([], rest)
    else if first.toNat < 0x20 then none
    else if first = '\\' then
      match rest with
      | [] => none
      | next :: rest => (rawString rest).map fun (text, after) => (first :: next :: text, after)
    else (rawString rest).map fun (text, after) => (first :: text, after)

def hexDigit (character : Char) : Option Nat :=
  if character.isDigit then some (character.toNat - '0'.toNat)
  else if 'a' ≤ character && character ≤ 'f' then some (character.toNat - 'a'.toNat + 10)
  else if 'A' ≤ character && character ≤ 'F' then some (character.toNat - 'A'.toNat + 10)
  else none

def hexUnit (digits : List Char) : Option Nat :=
  digits.foldlM (fun value digit => (hexDigit digit).map (16 * value + ·)) 0

def shortEscape (character : Char) : Option Char :=
  match character with
  | '"' => some '"'
  | '\\' => some '\\'
  | '/' => some '/'
  | 'b' => some (Char.ofNat 8)
  | 'f' => some (Char.ofNat 12)
  | 'n' => some '\n'
  | 'r' => some '\r'
  | 't' => some '\t'
  | _ => none

/-- Code units of UTF-16, where characters of their own are written out already. -/
def unescape : List Char → Option (List (Char ⊕ Nat))
  | [] => some []
  | first :: rest =>
    if first = '\\' then
      match rest with
      | 'u' :: a :: b :: c :: d :: rest => do
          let unit ← hexUnit [a, b, c, d]
          let later ← unescape rest
          some (.inr unit :: later)
      | next :: rest => do
          let character ← shortEscape next
          let later ← unescape rest
          some (.inl character :: later)
      | [] => none
    else (unescape rest).map (.inl first :: ·)

def replacement : Char := Char.ofNat 0xFFFD

def isHighSurrogate (unit : Nat) : Bool := 0xD800 ≤ unit && unit < 0xDC00

def isLowSurrogate (unit : Nat) : Bool := 0xDC00 ≤ unit && unit < 0xE000

/-- Pairs of surrogates are one character; one alone is replaced.  The first
argument is a high surrogate that waits for its pair. -/
def joinUnits : Option Nat → List (Char ⊕ Nat) → List Char
  | none, [] => []
  | some _, [] => [replacement]
  | waiting, .inl character :: rest =>
    waiting.toList.map (fun _ => replacement) ++ character :: joinUnits none rest
  | waiting, .inr unit :: rest =>
    let alone :=
      if isHighSurrogate unit then joinUnits (some unit) rest
      else (if isLowSurrogate unit then replacement else Char.ofNat unit) :: joinUnits none rest
    match waiting with
    | none => alone
    | some high =>
      if isLowSurrogate unit then
        Char.ofNat (0x10000 + (high - 0xD800) * 0x400 + (unit - 0xDC00)) :: joinUnits none rest
      else replacement :: alone

def readString (text : List Char) : Option (List Char × List Char) := do
  let (raw, after) ← rawString text
  let units ← unescape raw
  some (joinUnits none units, after)

def readDigits (text : List Char) : Option (List Char × List Char) :=
  match text.takeWhile Char.isDigit with
  | [] => none
  | digits => some (digits, text.dropWhile Char.isDigit)

def readWhole : List Char → Option (List Char × List Char)
  | '0' :: rest => some (['0'], rest)
  | text => readDigits text

def readFraction : List Char → Option (List Char × List Char)
  | '.' :: rest => (readDigits rest).map fun (digits, after) => ('.' :: digits, after)
  | text => some ([], text)

def readExponent (text : List Char) : Option (List Char × List Char) :=
  match text with
  | first :: rest =>
    if first = 'e' || first = 'E' then
      let (sign, rest) := match rest with
        | '+' :: rest => (['+'], rest)
        | '-' :: rest => (['-'], rest)
        | rest => ([], rest)
      (readDigits rest).map fun (digits, after) => (first :: sign ++ digits, after)
    else some ([], text)
  | [] => some ([], [])

def readNumber (text : List Char) : Option (List Char × List Char) := do
  let (sign, text) := match text with
    | '-' :: rest => (['-'], rest)
    | text => ([], text)
  let (whole, text) ← readWhole text
  let (fraction, text) ← readFraction text
  let (exponent, text) ← readExponent text
  some (sign ++ whole ++ fraction ++ exponent, text)

def readWord (text : List Char) : Option (Json × List Char) :=
  if "null".toList.isPrefixOf text then some (.null, text.drop 4)
  else if "true".toList.isPrefixOf text then some (.bool true, text.drop 4)
  else if "false".toList.isPrefixOf text then some (.bool false, text.drop 5)
  else none

/-! ## Values

Every call takes a character or leaves the list of elements for its first
value, so twice the length of the text bounds the calls. -/

mutual

def readValue : Nat → Nat → List Char → Option (Json × List Char)
  | 0, _, _ => none
  | fuel + 1, depth, text =>
    match skipBlanks text, depth with
    | '{' :: rest, depth + 1 =>
      match skipBlanks rest with
      | '}' :: after => some (.object [], after)
      | _ => (readMembers fuel depth rest).map fun (fields, after) => (.object fields, after)
    | '[' :: rest, depth + 1 =>
      match skipBlanks rest with
      | ']' :: after => some (.array [], after)
      | _ => (readElements fuel depth rest).map fun (items, after) => (.array items, after)
    | '"' :: rest, _ => (readString rest).map fun (text, after) => (.string text, after)
    | first :: rest, _ =>
      if first = '-' || first.isDigit then
        (readNumber (first :: rest)).map fun (text, after) => (.number text, after)
      else readWord (first :: rest)
    | [], _ => none

def readMembers : Nat → Nat → List Char → Option (List (List Char × Json) × List Char)
  | 0, _, _ => none
  | fuel + 1, depth, text =>
    match skipBlanks text with
    | '"' :: rest => do
        let (name, text) ← readString rest
        match skipBlanks text with
        | ':' :: text =>
          let (value, text) ← readValue fuel depth text
          match skipBlanks text with
          | ',' :: text =>
            let (fields, after) ← readMembers fuel depth text
            some ((name, value) :: fields, after)
          | '}' :: after => some ([(name, value)], after)
          | _ => none
        | _ => none
    | _ => none

def readElements : Nat → Nat → List Char → Option (List Json × List Char)
  | 0, _, _ => none
  | fuel + 1, depth, text => do
      let (value, text) ← readValue fuel depth text
      match skipBlanks text with
      | ',' :: text =>
        let (items, after) ← readElements fuel depth text
        some (value :: items, after)
      | ']' :: after => some ([value], after)
      | _ => none

end

def maxNestingDepth : Nat := 10000

def firstValue (text : List Char) : Option (Json × List Char) :=
  readValue (2 * text.length + 2) maxNestingDepth text

def onlyValue (text : List Char) : Option Json :=
  match firstValue text with
  | some (value, after) => if after.all isBlank then some value else none
  | none => none

/-- Names are compared without case, and two more characters fold to letters. -/
def foldName (name : List Char) : List Char :=
  name.map fun character =>
    if character = Char.ofNat 0x17F then 's'
    else if character = Char.ofNat 0x212A then 'k'
    else character.toLower

/-- A text field after a value has been stored into it; `none` is a type error. -/
def storeText (current : String) : Json → Option String
  | .string text => some (String.ofList text)
  | .null => some current
  | _ => none

def textField (name : String) : Json → Option String
  | .null => some ""
  | .object fields =>
    fields.foldlM (fun current (key, value) =>
      if foldName key = name.toList then storeText current value else some current) ""
  | _ => none

example : (onlyValue "\x7b\"Login\": \"\\u0061b\", \"x\": [1, \x7b\x7d]\x7d".toList).bind
  (textField "login") = some "ab" := by decide +kernel

example : (firstValue "\x7b\x7d x".toList).isSome = true ∧
  (onlyValue "\x7b\x7d x".toList).isNone = true := by decide +kernel

end ShadowPanel.Data.Json
