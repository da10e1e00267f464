import ShadowPanel.Api.Login
import ShadowPanel.Middlewares.LoginRateLimit

namespace ShadowPanel.Api

open Data Domain Middlewares Repositories

/-! The route `POST /api/auth/login`: the handler behind the limiter. -/

def decodeLogin (body : List Char) : Option LoginInput := do
  let (value, _) ← Json.firstValue body
  let login ← Json.textField "login" value
  let email ← Json.textField "email" value
  let password ← Json.textField "password" value
  let remember ← Json.textField "remember" value
  some ⟨login, email, password, remember⟩

inductive LoginReply where
  | limited (reason : RateLimitError)
  | answered (result : Except LoginError (User × String))

def responseStatus : Except LoginError (User × String) → Nat
  | .ok _ => 200
  | .error error => error.status

section

variable {cacheDriver : Cache.Driver} {userDriver : UserDriver}
variable (setup : Setup) (limiter : LoginRateLimit) (panel : Panel cacheDriver userDriver)

def loginHandler (tokenID : String) (body : List Char) : Except LoginError (User × String) :=
  match decodeLogin body with
  | none => .error .invalidBody
  | some input => login setup panel tokenID input

def bodyUser (body : List Char) : Option User :=
  (decodeLogin body).bind fun input => (checkedUser setup panel input).toOption

def isBlocked (request : LoginRequest) : Option RateLimitError :=
  shouldBlock limiter panel.cache panel.now setup.sha256 (extractClientIP limiter request)
    (peekUsername setup.toLower request)

def loginRoute (tokenID : String) (request : LoginRequest) :
    LoginReply × Panel cacheDriver userDriver :=
  let ip := extractClientIP limiter request
  let username := peekUsername setup.toLower request
  let cache := afterShouldBlock limiter panel.cache panel.now setup.sha256 ip username
  match isBlocked setup limiter panel request with
  | some reason => (.limited reason, { panel with cache := cache })
  | none =>
    let result := loginHandler setup panel tokenID (restoredBody request)
    (.answered result, { panel with
      cache := afterResponse limiter cache panel.now setup.sha256 ip username
        (responseStatus result) })

variable {setup limiter panel} {tokenID : String} {request : LoginRequest}

@[simp]
theorem loginRoute_now : (loginRoute setup limiter panel tokenID request).2.now = panel.now := by
  unfold loginRoute
  cases isBlocked setup limiter panel request <;> rfl

theorem loginRoute_of_unblocked (unblocked : isBlocked setup limiter panel request = none) :
    (loginRoute setup limiter panel tokenID request).2.cache = afterResponse limiter
        (afterShouldBlock limiter panel.cache panel.now setup.sha256
          (extractClientIP limiter request) (peekUsername setup.toLower request))
        panel.now setup.sha256 (extractClientIP limiter request)
          (peekUsername setup.toLower request)
        (responseStatus (loginHandler setup panel tokenID (restoredBody request))) := by
  simp only [loginRoute, unblocked]

theorem bodyUser_eq_some : bodyUser setup panel body = some user ↔
    ∃ input, decodeLogin body = some input ∧ checkedUser setup panel input = .ok user := by
  simp only [bodyUser, Option.bind_eq_some_iff]
  refine exists_congr fun input => and_congr_right fun _ => ?_
  cases checkedUser setup panel input <;> simp [Except.toOption]

theorem loginHandler_of_wrong (decoded : decodeLogin body = some input)
    (checked : checkedUser setup panel input = .ok user)
    (wrong : setup.verifyPassword user.password input.password = false) :
    loginHandler setup panel tokenID body = .error .invalidCredentials := by
  simp [loginHandler, decoded, login, checked, wrong]

end

end ShadowPanel.Api
