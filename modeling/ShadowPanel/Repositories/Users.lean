import ShadowPanel.Data.Keyed
import ShadowPanel.Domain.Users
import ShadowPanel.Filters

namespace ShadowPanel.Repositories

open Data Domain Filters

/-! The stores of users and personal access tokens. -/

/-- MySQL compares texts as the collation of the table folds them. -/
inductive UserDriver where
  | inMemory
  | mysql (collate : String → String)
  | postgreSQL
  | sqlite

namespace UserDriver

def fold : UserDriver → String → String
  | .mysql collate => collate
  | _ => id

def same (driver : UserDriver) (left right : String) : Bool := driver.fold left == driver.fold right

/-- The login and the email are unique in the tables of the SQL databases. -/
def hasUniqueTexts : UserDriver → Bool
  | .inMemory => false
  | _ => true

end UserDriver

structure UserRepository (driver : UserDriver) where
  rows : List User
  nextID : Nat

namespace UserRepository

variable (store : UserRepository driver)

def isFound (driver : UserDriver) (filter : FindUser) (user : User) : Bool :=
  (filter.ids.isEmpty || filter.ids.contains user.id) &&
    (filter.logins.isEmpty || filter.logins.any (driver.same user.login)) &&
    (filter.emails.isEmpty || filter.emails.any (driver.same user.email))

def find (filter : FindUser) : List User := store.rows.filter (isFound driver filter)

def findSorted (sorted : Sorted User) (filter : Option FindUser) (order : List Sorting)
    (pagination : Option Pagination) : List User :=
  applyPagination pagination
    (sortRows sorted order
      (match filter with
        | none => store.rows
        | some filter => store.find filter))

def findOne (filter : FindUser) : Option User := (store.find filter).head?

def isStored (id : Nat) : Bool := store.rows.any fun row => row.id == id

def freshID : Nat :=
  match driver with
  | .inMemory => (store.nextID + 1) % 0x100000000
  | _ => store.nextID + 1

section

variable (user : User)

def ownID : Nat := if user.id = 0 then store.freshID else user.id

/-- `ON DUPLICATE KEY UPDATE` meets the keys in this order. -/
def duplicate : Option User :=
  ((store.rows.find? fun row => row.id == store.ownID user).or
    (store.rows.find? fun row => driver.same row.login user.login)).or
    (store.rows.find? fun row => driver.same row.email user.email)

def target : Nat :=
  match driver with
  | .mysql _ => ((store.duplicate user).map User.id).getD (store.ownID user)
  | _ => store.ownID user

/-- The write breaks a key of the table.  The sequence of PostgreSQL may reach
an identifier that was written by hand. -/
def isRefused : Bool :=
  (driver.hasUniqueTexts && store.rows.any fun row => row.id != store.target user &&
    (driver.same row.login user.login || driver.same row.email user.email)) ||
  match driver with
  | .postgreSQL => user.id == 0 && store.isStored store.freshID
  | _ => false

/-- The counter after the statement; the ones of MySQL and SQLite follow the
identifiers that are written by hand. -/
def counter : Nat :=
  match driver with
  | .inMemory | .postgreSQL => if user.id = 0 then store.freshID else store.nextID
  | .mysql _ | .sqlite => max store.nextID (store.ownID user)

def save : UserRepository driver × Option User :=
  if store.isRefused user then
    match driver with
    | .sqlite => (store, none)
    | _ => ({ store with nextID := store.counter user }, none)
  else
    let saved := { user with id := store.target user }
    ({ rows := place User.id saved store.rows, nextID := store.counter user }, some saved)

end

def delete (id : Nat) : UserRepository driver :=
  { store with rows := store.rows.filter fun row => row.id != id }

theorem mem_of_findOne (found : store.findOne filter = some user) :
    user ∈ store.rows ∧ isFound driver filter user = true :=
  List.mem_filter.mp (List.mem_of_head? found)

theorem mem_of_save (member : row ∈ (store.save user).1.rows) :
    row = { user with id := store.target user } ∨ row ∈ store.rows := by
  unfold save at member
  split at member
  · split at member <;> exact .inr member
  · exact eq_or_mem_of_mem_place member

end UserRepository

structure PersonalAccessTokenRepository where rows : List PersonalAccessToken

def PersonalAccessTokenRepository.findByID (store : PersonalAccessTokenRepository) (id : Nat) :
    Option PersonalAccessToken :=
  store.rows.find? fun row => row.id == id

end ShadowPanel.Repositories
