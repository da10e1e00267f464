import ShadowPanel.Cache.Drivers
import ShadowPanel.Data.JsonText
import ShadowPanel.Data.Texts

namespace ShadowPanel.Middlewares

open Data

/-! The login limiter of `internal/api/middlewares/login_ratelimit.go`. -/

def loginRateLimitKeyPrefix : String := "auth:login-fail:"

def loginRateLimitMaxBody : Nat := 0x100000

structure LoginRateLimit where
  window : Int
  maxPerIP : Nat
  maxPerUser : Nat
  clientIPHeader : String

def defaultLoginRateLimit : LoginRateLimit where
  window := 15 * 60
  maxPerIP := 20
  maxPerUser := 5
  clientIPHeader := ""

/-- A request; reading the body may fail after the part that is given. -/
structure LoginRequest where
  header : String → String
  remoteAddr : String
  body : List Char
  readFails : Bool

inductive RateLimitError where
  | limitedByIP
  | limitedByUsername

def RateLimitError.message : RateLimitError → String
  | .limitedByIP => "too many failed login attempts from this client"
  | .limitedByUsername => "too many failed login attempts for this account"

def isSpace (character : Char) : Bool :=
  let code := character.toNat
  (9 ≤ code && code ≤ 13) || code == 32 || code == 0x85 || code == 0xA0 || code == 0x1680 ||
    (0x2000 ≤ code && code ≤ 0x200A) || code == 0x2028 || code == 0x2029 || code == 0x202F ||
    code == 0x205F || code == 0x3000

def trimSpace (text : List Char) : List Char :=
  ((text.dropWhile isSpace).reverse.dropWhile isSpace).reverse

def splitHost (address : List Char) : Option (List Char) :=
  match address with
  | '[' :: rest =>
    match cut ']' rest with
    | some (host, ':' :: port) =>
      if host.contains '[' || port.any (fun character => character = ':' ||
        character = '[' || character = ']') then none
      else some host
    | _ => none
  | _ =>
    match cut ':' address with
    | some (host, port) =>
      if port.contains ':' || address.any (fun character => character = '[' ||
        character = ']') then none
      else some host
    | none => none

variable (limiter : LoginRateLimit)

def remoteHost (request : LoginRequest) : String :=
  match splitHost request.remoteAddr.toList with
  | some host => String.ofList host
  | none => request.remoteAddr

def extractClientIP (request : LoginRequest) : String :=
  let value := trimSpace (request.header limiter.clientIPHeader).toList
  if limiter.clientIPHeader ≠ "" && !value.isEmpty then
    match cut ',' value with
    | some (first, _) => String.ofList (trimSpace first)
    | none => String.ofList value
  else remoteHost request

def restoredBody (request : LoginRequest) : List Char := request.body.take loginRateLimitMaxBody

def countedName (toLower : String → String) (login email : String) : String :=
  toLower (String.ofList (trimSpace (if email ≠ "" then email else login).toList))

def peekUsername (toLower : String → String) (request : LoginRequest) : String :=
  if request.readFails || (restoredBody request).isEmpty then ""
  else
    match Json.onlyValue (restoredBody request) with
    | none => ""
    | some value =>
      match Json.textField "login" value, Json.textField "email" value with
      | some login, some email => countedName toLower login email
      | _, _ => ""

def ipKey (ip : String) : String := loginRateLimitKeyPrefix ++ ("ip:" ++ ip)

def userKey (sha256 : String → String) (username : String) : String :=
  loginRateLimitKeyPrefix ++ ("user:" ++ sha256 username)

/-- Counters are stored as plain numbers; anything else counts as zero. -/
def countOf : Json → Nat
  | .number text => Nat.ofDigitChars 10 (text.takeWhile Char.isDigit) 0
  | _ => 0

section

variable {driver : Cache.Driver} (cache : Cache driver) (now : Int)

def readCount (key : String) : Nat :=
  match cache.get now key with
  | some value => countOf value
  | none => 0

def writeCount (key : String) (count : Nat) : Cache driver :=
  cache.set now key (.number (toString count).toList) limiter.window

def increment (key : String) : Cache driver :=
  (cache.afterGet now key).set now key
    (.number (toString (readCount cache now key + 1)).toList) limiter.window

variable (sha256 : String → String) (ip username : String)

def isLimitedByIP : Bool := ip ≠ "" && limiter.maxPerIP ≤ readCount cache now (ipKey ip)

def isLimitedByUsername : Bool :=
  username ≠ "" && limiter.maxPerUser ≤ readCount cache now (userKey sha256 username)

def shouldBlock : Option RateLimitError :=
  if isLimitedByIP limiter cache now ip then some .limitedByIP
  else if isLimitedByUsername limiter cache now sha256 username then some .limitedByUsername
  else none

def afterShouldBlock : Cache driver :=
  let looked := if ip ≠ "" then cache.afterGet now (ipKey ip) else cache
  if isLimitedByIP limiter cache now ip || username = "" then looked
  else looked.afterGet now (userKey sha256 username)

def recordFailure : Cache driver :=
  let counted := if ip ≠ "" then increment limiter cache now (ipKey ip) else cache
  if username ≠ "" then increment limiter counted now (userKey sha256 username) else counted

def afterResponse (status : Nat) : Cache driver :=
  if status = 401 then recordFailure limiter cache now sha256 ip username
  else if status = 200 then
    if username ≠ "" then cache.delete (userKey sha256 username) else cache
  else cache

end

end ShadowPanel.Middlewares
