import ShadowPanel.Application.Panel

namespace ShadowPanel.Api

open Auth Domain Filters Repositories

/-! The handler of `internal/api/auth/login`, from the input it has read. -/

def defaultTokenDuration : Int := 24 * 60 * 60

def rememberMeDuration : Int := 7 * 24 * 60 * 60

structure LoginInput where
  login : String
  email : String
  password : String
  remember : String
  deriving DecidableEq

inductive LoginError where
  | invalidBody
  | loginIsRequired
  | passwordIsRequired
  | invalidCredentials
  | tokenNotGenerated

namespace LoginError

def status : LoginError → Nat
  | .invalidBody => 400
  | .loginIsRequired => 422
  | .passwordIsRequired => 422
  | .invalidCredentials => 401
  | .tokenNotGenerated => 500

def message : LoginError → String
  | .invalidBody => "invalid request body"
  | .loginIsRequired => "login or email fields are required"
  | .passwordIsRequired => "password field is required"
  | .invalidCredentials => "invalid credentials"
  | .tokenNotGenerated => "failed to generate token"

end LoginError

namespace LoginInput

variable (input : LoginInput)

def validate : Except LoginError Unit :=
  if input.login = "" && input.email = "" then .error .loginIsRequired
  else if input.password = "" then .error .passwordIsRequired
  else .ok ()

def rememberMe : Bool := input.remember = "on" || input.remember = "true"

def isEmailLogin : Bool := input.email ≠ ""

def filter : FindUser :=
  if input.isEmailLogin then findUserByEmails [input.email]
  else findUserByLogins [input.login]

def duration : Int := if input.rememberMe then rememberMeDuration else defaultTokenDuration

end LoginInput

section

variable (setup : Setup) (panel : Panel cacheDriver userDriver)

def checkedUser (input : LoginInput) : Except LoginError User :=
  match input.validate with
  | .error error => .error error
  | .ok () =>
    match panel.findUser setup input.filter with
    | none => .error .invalidCredentials
    | some user => .ok user

def login (tokenID : String) (input : LoginInput) : Except LoginError (User × String) :=
  match checkedUser setup panel input with
  | .error error => .error error
  | .ok user =>
    if setup.verifyPassword user.password input.password then
      match setup.authService.generateTokenForUser panel.now tokenID user input.duration with
      | none => .error .tokenNotGenerated
      | some token => .ok (user, token)
    else .error .invalidCredentials

variable {setup panel}

theorem checkedUser_eq_ok : checkedUser setup panel input = .ok user ↔
    input.validate = .ok () ∧ panel.findUser setup input.filter = some user := by
  unfold checkedUser
  cases valid : input.validate with
  | error error => simp
  | ok =>
    cases panel.findUser setup input.filter with
    | none | some found => simp

theorem login_eq_ok (issued : login setup panel tokenID input = .ok (user, token)) :
    checkedUser setup panel input = .ok user ∧
      setup.authService.generateTokenForUser panel.now tokenID user input.duration =
        some token := by
  unfold login at issued
  cases checked : checkedUser setup panel input with
  | error error => simp [checked] at issued
  | ok found =>
    simp only [checked] at issued
    split at issued
    · split at issued
      · cases issued
      next generated =>
        cases issued
        exact ⟨rfl, generated⟩
    · cases issued

end

end ShadowPanel.Api
