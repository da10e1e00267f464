import ShadowPanel.Auth.Revocation
import ShadowPanel.Auth.Tokens
import ShadowPanel.Services.Users

namespace ShadowPanel

open Auth Domain Filters Repositories Services

/-! What `internal/application/container.go` wires together for the routes that
log users in and out. -/

structure Setup where
  authService : AuthService
  sha256 : String → String
  toLower : String → String
  verifyPassword : String → String → Bool

/-- Texts stand for their own digests, and passwords for their hashes. -/
def Setup.plain : Setup where
  authService := .unsigned
  sha256 := id
  toLower := id
  verifyPassword := fun hash password => hash == password

/-- What the handlers read and write.  A request is served at one moment. -/
structure Panel (cacheDriver : Cache.Driver) (userDriver : UserDriver) where
  now : Int
  cache : Cache cacheDriver
  users : UserRepository userDriver
  tokens : PersonalAccessTokenRepository

namespace Panel

variable {cacheDriver : Cache.Driver} {userDriver : UserDriver}

def findUser (setup : Setup) (panel : Panel cacheDriver userDriver) (filter : FindUser) :
    Option User :=
  UserService.findOne setup.toLower panel.users filter

end Panel

structure Session where
  login : String
  email : String
  user : User
  token : Option PersonalAccessToken

def Session.ofUser (user : User) (token : Option PersonalAccessToken) : Session where
  login := user.login
  email := user.email
  user := user
  token := token

end ShadowPanel
