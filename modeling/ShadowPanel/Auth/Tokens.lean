import ShadowPanel.Domain.Users

namespace ShadowPanel.Auth

open Domain

/-! The signed tokens of `pkg/auth/jwt.go` and `pkg/auth/paseto.go`. -/

structure Claims where
  id : String
  subject : String
  expiration : Option Int
  deriving DecidableEq

inductive TokenFormat where
  | jwt
  | paseto

/-- The time has not come at which the library refuses the token.  The JWT
library asks for no expiration, the PASETO parser does. -/
def Claims.isLive (format : TokenFormat) (now : Int) (claims : Claims) : Bool :=
  match format, claims.expiration with
  | .jwt, none => true
  | .jwt, some expiration => now < expiration
  | .paseto, none => false
  | .paseto, some expiration => now ≤ expiration

/-- The token library with the panel's key.  It reads back what it signed, and a
text that it reads as a token is made of dots and base64 characters. -/
structure AuthService where
  format : TokenFormat
  claims : String → Option Claims
  sign : Claims → Option String
  claims_sign : ∀ signed token, sign signed = some token → claims token = some signed
  claims_pipe : ∀ text : String, '|' ∈ text.toList → claims text = none

def subjectPrefix : String := "user:login:"

def createSubjectFromLogin (login : String) : String := subjectPrefix ++ login

namespace AuthService

variable (service : AuthService) (now : Int)

def claimsForUser (id : String) (user : User) (tokenDuration : Int) : Claims where
  id := id
  subject := createSubjectFromLogin user.login
  expiration := some (now + tokenDuration)

def generateTokenForUser (id : String) (user : User) (tokenDuration : Int) : Option String :=
  service.sign (claimsForUser now id user tokenDuration)

def validateToken (token : String) : Option Claims :=
  (service.claims token).filter (Claims.isLive service.format now)

theorem validateToken_eq_some {claims : Claims} : service.validateToken now token = some claims ↔
    service.claims token = some claims ∧ claims.isLive service.format now = true :=
  Option.filter_eq_some_iff

def unsigned : AuthService where
  format := .jwt
  claims := fun _ => none
  sign := fun _ => none
  claims_sign := nofun
  claims_pipe := fun _ _ => rfl

end AuthService

theorem Claims.le_of_isLive {expiration : Int} {claims : Claims}
    (live : claims.isLive format now = true) (expires : claims.expiration = some expiration) :
    now ≤ expiration := by
  unfold Claims.isLive at live
  rw [expires] at live
  cases format with
  | jwt =>
    have before : now < expiration := by simpa using live
    omega
  | paseto => simpa using live

end ShadowPanel.Auth
