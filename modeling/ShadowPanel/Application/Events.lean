import ShadowPanel.Api.Login
import ShadowPanel.Api.Logout
import ShadowPanel.Data.Runs

namespace ShadowPanel

open Api Domain Middlewares Repositories Services

/-! The panel as a machine: time passes, requests are served, and the rest of
the program writes its own tables and cache entries. -/

inductive Panel.Event (cacheDriver : Cache.Driver) where
  | wait (seconds : Nat)
  | request (request : Request)
  | login (tokenID : String) (input : LoginInput)
  | logout (request : Request)
  | saveUser (user : User)
  | deleteUser (id : Nat)
  | tokens (tokens : PersonalAccessTokenRepository)
  | cache (cache : Cache cacheDriver)

namespace Panel

variable {cacheDriver : Cache.Driver} {userDriver : UserDriver} (setup : Setup)

def step (panel : Panel cacheDriver userDriver) : Event cacheDriver → Panel cacheDriver userDriver
  | .wait seconds => { panel with now := panel.now + seconds }
  | .request request => { panel with cache := afterMiddleware setup panel request }
  | .login _ _ => panel
  | .logout request => (Api.logout setup panel request).2
  | .saveUser user => { panel with users := (UserService.save setup.toLower panel.users user).1 }
  | .deleteUser id => { panel with users := UserService.delete panel.users id }
  | .tokens tokens => { panel with tokens := tokens }
  | .cache cache => { panel with cache := cache }

def run (panel : Panel cacheDriver userDriver) (events : List (Event cacheDriver)) :
    Panel cacheDriver userDriver :=
  Data.run (step setup) panel events

end Panel

end ShadowPanel
