namespace ShadowPanel.Domain

/-! The records of `internal/domain/rbac.go` and `internal/domain/entity.go`.
The creation and update times are left out: no modelled function reads them. -/

abbrev AbilityName := String

abbrev EntityType := String

namespace EntityType

def user : EntityType := "Gameap\\Models\\User"

def server : EntityType := "Gameap\\Models\\Server"

def role : EntityType := "roles"

def node : EntityType := "Gameap\\Models\\DedicatedServer"

def clientCertificate : EntityType := "Gameap\\Models\\ClientCertificate"

def game : EntityType := "Gameap\\Models\\Game"

def gameMod : EntityType := "Gameap\\Models\\GameMod"

end EntityType

structure Ability where
  id : Nat
  name : AbilityName
  title : Option String
  entityID : Option Nat
  entityType : Option EntityType
  onlyOwned : Bool
  options : Option String
  scope : Option Int
  deriving DecidableEq

def createAbilityForEntity (name : AbilityName) (entityID : Nat) (entityType : EntityType) :
    Ability where
  id := 0
  name := name
  title := none
  entityID := some entityID
  entityType := some entityType
  onlyOwned := false
  options := none
  scope := none

structure Role where
  id : Nat
  name : String
  title : Option String
  level : Option Nat
  scope : Option Int
  deriving DecidableEq

structure RestrictedRole extends Role where
  restrictedToID : Option Nat
  restrictedToType : Option EntityType
  deriving DecidableEq

def newRestrictedRoleFromRole (role : Role) : RestrictedRole where
  toRole := role
  restrictedToID := none
  restrictedToType := none

/-- A permission row.  `ability` is filled in when a repository returns the
row and is `none` in the stored row. -/
structure Permission where
  id : Nat
  abilityID : Nat
  entityID : Option Nat
  entityType : Option EntityType
  forbidden : Bool
  scope : Option Int
  ability : Option Ability

structure AssignedRole where
  id : Nat
  roleID : Nat
  entityID : Nat
  entityType : EntityType
  restrictedToID : Option Nat
  restrictedToType : Option EntityType
  scope : Option Int

namespace Permission

def isNamed (name : AbilityName) (permission : Permission) : Bool :=
  permission.ability.any fun ability => ability.name == name

end Permission

end ShadowPanel.Domain
