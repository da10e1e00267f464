import ShadowPanel.Data.Keyed
import ShadowPanel.Data.Reordering
import ShadowPanel.Domain.Rbac

namespace ShadowPanel.Repositories

open Data Domain List

/-! The role and permission tables of `internal/repositories`.  The three SQL
repositories send the same queries and differ only in the dialect, so one
driver stands for all of them. -/

inductive Driver where
  | inMemory
  | sql

/-- The in-memory repository returns a row without an ability when the ability
is gone; the SQL join drops it. -/
def Driver.joined (driver : Driver) (attached : List Permission) : List Permission :=
  match driver with
  | .inMemory => attached
  | .sql => attached.filter fun permission => permission.ability.isSome

def abilitiesMatch (left right : Ability) : Bool :=
  left.name == right.name && left.entityID == right.entityID &&
    left.entityType == right.entityType && left.scope == right.scope

structure AbilityKey where
  name : AbilityName
  entityID : Option Nat
  entityType : Option EntityType
  scope : Option Int
  deriving DecidableEq

def abilityKey (ability : Ability) : AbilityKey where
  name := ability.name
  entityID := ability.entityID
  entityType := ability.entityType
  scope := ability.scope

theorem abilitiesMatch_iff (left right : Ability) :
    abilitiesMatch left right = true ↔ abilityKey left = abilityKey right := by
  simp [abilitiesMatch, abilityKey, and_assoc]

/--
The tables, with the counters that hand out their identifiers.  Every
identifier in use was handed out, so a new row never takes the place of an
old one.  The in-memory `Allow` and `Forbid` look an ability up before they add
it, so that store never holds two abilities with one key; the SQL tables may.
-/
structure RBACRepository (driver : Driver) where
  roles : List Role
  assignedRoles : List AssignedRole
  abilities : List Ability
  permissions : List Permission
  nextAssignedID : Nat
  nextAbilityID : Nat
  nextPermissionID : Nat
  assignedRoles_le : ∀ assigned ∈ assignedRoles, assigned.id ≤ nextAssignedID
  abilities_le : ∀ ability ∈ abilities, ability.id ≤ nextAbilityID
  abilities_nodup : (abilities.map Ability.id).Nodup
  keys_nodup : driver = .inMemory → (abilities.map abilityKey).Nodup
  permissions_le : ∀ permission ∈ permissions, permission.id ≤ nextPermissionID
  references_le : ∀ permission ∈ permissions, permission.abilityID ≤ nextAbilityID

namespace RBACRepository

def ofRows (roles : List Role) (assignedRoles : List AssignedRole) (abilities : List Ability)
    (permissions : List Permission)
    (valid : (abilities.map Ability.id).Nodup ∧ (abilities.map abilityKey).Nodup ∧
      ∀ permission ∈ permissions, permission.abilityID ≤ lastNumber (abilities.map Ability.id)) :
    RBACRepository driver where
  roles := roles
  assignedRoles := assignedRoles
  abilities := abilities
  permissions := permissions
  nextAssignedID := lastNumber (assignedRoles.map AssignedRole.id)
  nextAbilityID := lastNumber (abilities.map Ability.id)
  nextPermissionID := lastNumber (permissions.map Permission.id)
  assignedRoles_le := le_lastNumber AssignedRole.id
  abilities_le := le_lastNumber Ability.id
  abilities_nodup := valid.1
  keys_nodup := fun _ => valid.2.1
  permissions_le := le_lastNumber Permission.id
  references_le := valid.2.2

def isOwnedBy (entityID : Nat) (entityType : EntityType) (permission : Permission) : Bool :=
  permission.entityID == some entityID && permission.entityType == some entityType

section

variable (store : RBACRepository driver)

def attachAbility (permission : Permission) : Permission :=
  { permission with
    ability := store.abilities.find? fun ability =>
      ability.id == permission.abilityID }

def permissionRows (entityID : Nat) (entityType : EntityType) : List Permission :=
  driver.joined
    ((store.permissions.filter (isOwnedBy entityID entityType)).map store.attachAbility)

def roleRows (entityID : Nat) (entityType : EntityType) : List RestrictedRole :=
  (store.assignedRoles.filter fun assigned =>
    assigned.entityID == entityID && assigned.entityType == entityType).filterMap
    fun assigned =>
      (store.roles.find? fun role => role.id == assigned.roleID).map fun role =>
        { toRole := role
          restrictedToID := assigned.restrictedToID
          restrictedToType := assigned.restrictedToType }

def insertAbility (ability : Ability)
    (absent : driver = .inMemory → abilityKey ability ∉ store.abilities.map abilityKey) :
    RBACRepository driver :=
  let inserted : Ability := { ability with id := store.nextAbilityID + 1 }
  have fresh : ∀ existing ∈ store.abilities, existing.id ≠ inserted.id := by
    intro existing member
    have bound := store.abilities_le existing member
    exact Nat.ne_of_lt (Nat.lt_succ_of_le bound)
  { store with
    abilities := assign Ability.id inserted store.abilities
    nextAbilityID := store.nextAbilityID + 1
    abilities_le := by
      rw [assign_of_fresh fresh]
      intro existing member
      rcases mem_append.mp member with old | new
      · exact Nat.le_succ_of_le (store.abilities_le existing old)
      · simp only [mem_singleton] at new
        subst new
        exact Nat.le_refl _
    abilities_nodup := nodup_assign store.abilities_nodup
    keys_nodup := by
      intro memory
      rw [assign_of_fresh fresh, map_append, nodup_append]
      refine ⟨store.keys_nodup memory, by simp, ?_⟩
      intro existing member new newMember same
      have newKey : new = abilityKey ability := by
        simpa [inserted, abilityKey] using newMember
      exact absent memory (newKey ▸ same ▸ member)
    references_le := fun permission member =>
      Nat.le_succ_of_le (store.references_le permission member) }

def saveOrGetAbility (ability : Ability) : RBACRepository driver :=
  if exists? : store.abilities.any (fun existing => abilitiesMatch existing ability) then
    store
  else
    store.insertAbility ability fun _ member => by
      obtain ⟨existing, existingMember, same⟩ := mem_map.mp member
      exact exists? (any_eq_true.mpr
        ⟨existing, existingMember, (abilitiesMatch_iff existing ability).mpr same⟩)

/-- The SQL `abilityUniqueKey`, which reads an absent column as its zero. -/
structure AbilityUniqueKey where
  name : AbilityName
  entityID : Nat
  entityType : EntityType
  scope : Int
  deriving DecidableEq

def abilityUniqueKeyFromAbility (ability : Ability) : AbilityUniqueKey where
  name := ability.name
  entityID := ability.entityID.getD 0
  entityType := ability.entityType.getD ""
  scope := ability.scope.getD 0

def existingAbilityKeys (abilities : List Ability) : List AbilityUniqueKey :=
  (store.abilities.filter fun stored =>
    abilities.any fun ability => abilitiesMatch stored ability).map
      abilityUniqueKeyFromAbility

end

/-- The SQL `saveAbilities`: the existing keys are read once, so an ability
that is listed twice is inserted twice. -/
def saveNewAbilities (store : RBACRepository .sql) (abilities : List Ability) :
    RBACRepository .sql :=
  let existing := store.existingAbilityKeys abilities
  let newAbilities := abilities.filter fun ability =>
    !existing.contains (abilityUniqueKeyFromAbility ability)
  newAbilities.foldl (fun current ability => current.insertAbility ability (by simp)) store

def saveAbilities : {driver : Driver} → RBACRepository driver → List Ability → RBACRepository driver
  | .inMemory, store, abilities => abilities.foldl saveOrGetAbility store
  | .sql, store, abilities => store.saveNewAbilities abilities

/-- The in-memory repository takes the first match of each ability, the SQL
query every row that matches one of them. -/
def findAbilityIDs : {driver : Driver} → RBACRepository driver → List Ability → List Nat
  | .inMemory, store, abilities => abilities.filterMap fun ability =>
    (store.abilities.find? fun existing =>
      abilitiesMatch existing ability).map Ability.id
  | .sql, store, abilities =>
    (store.abilities.filter fun existing =>
      abilities.any fun ability => abilitiesMatch existing ability).map Ability.id

section

variable (store : RBACRepository driver)

theorem mem_findAbilityIDs (abilities : List Ability) (id : Nat) :
    id ∈ store.findAbilityIDs abilities ↔
      ∃ existing ∈ store.abilities, existing.id = id ∧
        ∃ ability ∈ abilities, abilityKey existing = abilityKey ability := by
  cases driver with
  | inMemory =>
    simp only [findAbilityIDs, mem_filterMap, Option.map_eq_some_iff]
    constructor
    · rintro ⟨ability, abilityMember, existing, found, same⟩
      have answered : abilitiesMatch existing ability = true := by
        simpa using find?_some found
      have matching := (abilitiesMatch_iff existing ability).mp answered
      exact ⟨existing, mem_of_find?_eq_some found, same, ability, abilityMember, matching⟩
    · rintro ⟨existing, existingMember, same, ability, abilityMember, matching⟩
      refine ⟨ability, abilityMember, existing, ?_, same⟩
      have byKey : (fun other => abilitiesMatch other ability) =
          fun other => abilityKey other == abilityKey existing := by
        funext other
        rw [Bool.eq_iff_iff, abilitiesMatch_iff, matching, beq_iff_eq]
      rw [byKey]
      exact find?_key_of_mem (store.keys_nodup rfl) existingMember
  | sql =>
    simp only [findAbilityIDs, mem_map, mem_filter, any_eq_true, abilitiesMatch_iff]
    constructor
    · rintro ⟨existing, ⟨existingMember, ability, abilityMember, matching⟩, same⟩
      exact ⟨existing, existingMember, same, ability, abilityMember, matching⟩
    · rintro ⟨existing, existingMember, same, ability, abilityMember, matching⟩
      exact ⟨existing, ⟨existingMember, ability, abilityMember, matching⟩, same⟩

theorem findAbilityIDs_le (abilities : List Ability) (id : Nat)
    (member : id ∈ store.findAbilityIDs abilities) : id ≤ store.nextAbilityID := by
  obtain ⟨existing, existingMember, rfl, _⟩ :=
    (store.mem_findAbilityIDs abilities id).mp member
  exact store.abilities_le existing existingMember

def newPermission (entityID : Nat) (entityType : EntityType) (forbidden : Bool) (abilityID : Nat) :
    Permission where
  id := store.nextPermissionID + 1
  abilityID := abilityID
  entityID := some entityID
  entityType := some entityType
  forbidden := forbidden
  scope := none
  ability := none

def insertPermission (entityID : Nat) (entityType : EntityType) (forbidden : Bool) (abilityID : Nat)
    (known : abilityID ≤ store.nextAbilityID) : RBACRepository driver :=
  let inserted := store.newPermission entityID entityType forbidden abilityID
  have fresh : ∀ existing ∈ store.permissions, existing.id ≠ inserted.id := by
    intro existing member
    exact Nat.ne_of_lt (Nat.lt_succ_of_le (store.permissions_le existing member))
  { store with
    permissions := assign Permission.id inserted store.permissions
    nextPermissionID := store.nextPermissionID + 1
    permissions_le := by
      rw [assign_of_fresh fresh]
      intro existing member
      rcases mem_append.mp member with old | new
      · exact Nat.le_succ_of_le (store.permissions_le existing old)
      · simp only [mem_singleton] at new
        subst new
        exact Nat.le_refl _
    references_le := by
      rw [assign_of_fresh fresh]
      intro existing member
      rcases mem_append.mp member with old | new
      · exact store.references_le existing old
      · simp only [mem_singleton] at new
        subst new
        exact known }

end

def insertPermissions (store : RBACRepository driver) (entityID : Nat) (entityType : EntityType)
    (forbidden : Bool) : (abilityIDs : List Nat) →
    (∀ id ∈ abilityIDs, id ≤ store.nextAbilityID) → RBACRepository driver
  | [], _ => store
  | abilityID :: rest, known =>
    (store.insertPermission entityID entityType forbidden abilityID
      (known abilityID (by simp))).insertPermissions entityID entityType forbidden
        rest fun id member => known id (by simp [member])

section

variable (store : RBACRepository driver)

/-- Save the abilities, find their identifiers and add one row for each
identifier.  After the save at least one identifier is found, so the error of
the SQL repositories for an empty result does not arise. -/
def applyAbilities (entityID : Nat) (entityType : EntityType) (abilities : List Ability)
    (forbidden : Bool) : RBACRepository driver :=
  match abilities with
  | [] => store
  | abilities =>
    let saved := store.saveAbilities abilities
    saved.insertPermissions entityID entityType forbidden
      (saved.findAbilityIDs abilities) (saved.findAbilityIDs_le abilities)

def allow (entityID : Nat) (entityType : EntityType) (abilities : List Ability) :
    RBACRepository driver :=
  store.applyAbilities entityID entityType abilities false

def forbid (entityID : Nat) (entityType : EntityType) (abilities : List Ability) :
    RBACRepository driver :=
  store.applyAbilities entityID entityType abilities true

/-- Rows of either kind are deleted, forbidden or not. -/
def revoke (entityID : Nat) (entityType : EntityType) (abilities : List Ability) :
    RBACRepository driver :=
  let abilityIDs := store.findAbilityIDs abilities
  { store with
    permissions := store.permissions.filter fun permission =>
      !(isOwnedBy entityID entityType permission && abilityIDs.contains permission.abilityID)
    permissions_le := fun permission member =>
      store.permissions_le permission (mem_filter.mp member).1
    references_le := fun permission member =>
      store.references_le permission (mem_filter.mp member).1 }

def isSameAssignment (entityID : Nat) (entityType : EntityType) (role : RestrictedRole)
    (assigned : AssignedRole) : Bool :=
  assigned.entityID == entityID && assigned.entityType == entityType &&
    assigned.roleID == role.id &&
    assigned.restrictedToID == role.restrictedToID &&
    assigned.restrictedToType == role.restrictedToType

def insertAssignment (entityID : Nat) (entityType : EntityType) (role : RestrictedRole) :
    RBACRepository driver :=
  let inserted : AssignedRole :=
    { id := store.nextAssignedID + 1
      roleID := role.id
      entityID := entityID
      entityType := entityType
      restrictedToID := role.restrictedToID
      restrictedToType := role.restrictedToType
      scope := role.scope }
  have fresh : ∀ existing ∈ store.assignedRoles, existing.id ≠ inserted.id := by
    intro existing member
    exact Nat.ne_of_lt (Nat.lt_succ_of_le (store.assignedRoles_le existing member))
  { store with
    assignedRoles := assign AssignedRole.id inserted store.assignedRoles
    nextAssignedID := store.nextAssignedID + 1
    assignedRoles_le := by
      rw [assign_of_fresh fresh]
      intro existing member
      rcases mem_append.mp member with old | new
      · exact Nat.le_succ_of_le (store.assignedRoles_le existing old)
      · simp only [mem_singleton] at new
        subst new
        exact Nat.le_refl _ }

end

/-- The in-memory repository skips an assignment that already exists. -/
def assignRole : {driver : Driver} → Nat → EntityType → RBACRepository driver →
    RestrictedRole → RBACRepository driver
  | .inMemory, entityID, entityType, store, role =>
    if store.assignedRoles.any (isSameAssignment entityID entityType role) then
      store
    else
      store.insertAssignment entityID entityType role
  | .sql, entityID, entityType, store, role =>
    store.insertAssignment entityID entityType role

def assignRolesForEntity (store : RBACRepository driver) (entityID : Nat) (entityType : EntityType)
    (roles : List RestrictedRole) : RBACRepository driver :=
  roles.foldl (assignRole entityID entityType) store

def clearRolesForEntity (store : RBACRepository driver) (entityID : Nat) (entityType : EntityType) :
    RBACRepository driver :=
  { store with
    assignedRoles := store.assignedRoles.filter fun assigned =>
      !(assigned.entityID == entityID && assigned.entityType == entityType)
    assignedRoles_le := fun assigned member =>
      store.assignedRoles_le assigned (mem_filter.mp member).1 }

end RBACRepository

end ShadowPanel.Repositories
