import ShadowPanel.Repositories.Users

namespace ShadowPanel.Services

open Domain Filters Repositories

/-! The user service of `internal/services/user.go`, which keeps logins in
lower case. -/

namespace UserService

variable (toLower : String → String) (store : UserRepository driver)

def findOne (filter : FindUser) : Option User :=
  store.findOne { filter with logins := filter.logins.map toLower }

def save (user : User) : UserRepository driver × Option User :=
  store.save { user with login := toLower user.login }

def delete (id : Nat) : UserRepository driver := store.delete id

theorem findOne_login (found : findOne toLower store (findUserByLogins [login]) = some user) :
    user ∈ store.rows ∧ driver.same user.login (toLower login) = true := by
  obtain ⟨member, matching⟩ := store.mem_of_findOne found
  exact ⟨member, by simpa [UserRepository.isFound, findUserByLogins] using matching⟩

end UserService

end ShadowPanel.Services
