namespace ShadowPanel.Validation

/-! The checks of `pkg/validation`. -/

def isHexDigit (char : Char) : Bool :=
  char.isDigit || 'a' ≤ char && char ≤ 'f' || 'A' ≤ char && char ≤ 'F'

def isAlphanumeric (char : Char) : Bool :=
  char.isDigit || 'a' ≤ char && char ≤ 'z' || 'A' ≤ char && char ≤ 'Z'

/-- At most 255, without a zero in front. -/
def isOctet (digits : List Char) : Bool :=
  !digits.isEmpty && digits.all Char.isDigit && (digits.length == 1 || digits.head? != some '0') &&
    Nat.ofDigitChars 10 digits 0 ≤ 255

def isIPv4 (text : List Char) : Bool :=
  let octets := text.splitOn '.'
  octets.length == 4 && octets.all isOctet

def fillsGroups (missing : Nat) (ellipsis : Bool) : Bool :=
  if missing = 0 then !ellipsis else ellipsis

/-- `missing` is the number of groups that have not been read, and `ellipsis` tells
whether `::` has been. -/
def isIPv6From : (missing : Nat) → (ellipsis : Bool) → (text : List Char) → Bool
  | 0, ellipsis, text => text.isEmpty && fillsGroups 0 ellipsis
  | missing + 1, ellipsis, text =>
    let digits := text.takeWhile isHexDigit
    if digits.isEmpty || 4 < digits.length then false
    else
      match text.dropWhile isHexDigit with
      | [] => fillsGroups missing ellipsis
      -- an IPv4 address in the place of the last two groups
      | '.' :: _ =>
        (ellipsis || missing == 1) && 1 ≤ missing && isIPv4 text &&
          fillsGroups (missing - 1) ellipsis
      | [':'] => false
      | [':', ':'] => !ellipsis && fillsGroups missing true
      | ':' :: ':' :: rest => !ellipsis && isIPv6From missing true rest
      | ':' :: rest => isIPv6From missing ellipsis rest
      | _ :: _ => false

def isIPv6 : List Char → Bool
  | [':', ':'] => true
  | ':' :: ':' :: rest => isIPv6From 8 true rest
  | text => isIPv6From 8 false text

/-- `ParseIP` takes no zone after `%`. -/
def isIP (text : List Char) : Bool :=
  match text.find? fun char => char == '.' || char == ':' || char == '%' with
  | some '.' => isIPv4 text
  | some ':' => isIPv6 text
  | _ => false

example : isIP "2001:db8::192.168.1.1".toList = true ∧ isIP "1:2:3:4:5:6:7:8::".toList = false := by
  decide

def isIPLike (text : List Char) : Bool :=
  !text.isEmpty &&
    (text.all (fun char => char.isDigit || char == '.') ||
      text.all fun char => isHexDigit char || char == ':')

/-- A part of `hostnameRegex` between two dots. -/
def isLabel (text : List Char) : Bool :=
  text.length ≤ 63 && text.all (fun char => isAlphanumeric char || char == '-') &&
    text.head?.any isAlphanumeric && text.getLast?.any isAlphanumeric

def isValidIPOrHostname (value : String) : Bool :=
  let text := value.toList
  if isIP text then true
  else if isIPLike text then false
  else if 253 < value.utf8ByteSize then false
  else (text.splitOn '.').all isLabel

def isASCIILetter (char : Char) : Bool := 'A' ≤ char && char ≤ 'Z' || 'a' ≤ char && char ≤ 'z'

def isRelativeServerPath (path : String) : Bool :=
  let text := path.toList
  match text with
  | [] => false
  | '/' :: _ | '\\' :: _ => false
  | letter :: rest =>
    if isASCIILetter letter && rest.head? == some ':' then false
    else
      let normalized := text.map fun char => if char = '\\' then '/' else char
      !(normalized.splitOn '/').contains ['.', '.']

def isSlugChar (char : Char) : Bool :=
  'a' ≤ char && char ≤ 'z' || '0' ≤ char && char ≤ '9' || char == '_' || char == '-'

def isSlug (text : String) : Bool := text.toList.all isSlugChar

end ShadowPanel.Validation
