import ShadowPanel.Data.Layered
import ShadowPanel.Domain.Rbac

namespace ShadowPanel.Rbac

open Data Domain List

/-! The decisions of `internal/rbac/rbac.go` on rows that were already read. -/

/-- `map[domain.AbilityName][]domain.Permission`; a missing key reads as the
empty list. -/
abbrev PermissionMap := AbilityName → List Permission

/-- A role that is restricted to an identifier but to no type passes nothing
on, and one restricted to both compares the identifier only. -/
def admits (role : RestrictedRole) (permission : Permission) : Bool :=
  match role.restrictedToType, role.restrictedToID with
  | none, none => true
  | some restrictedToType, none =>
    permission.ability.any fun ability => ability.entityType == some restrictedToType
  | some _, some restrictedToID =>
    permission.ability.any fun ability => ability.entityID == some restrictedToID
  | none, some _ => false

def addPermission (permissions : PermissionMap) (permission : Permission) : PermissionMap :=
  match permission.ability with
  | none => permissions
  | some ability => fun name =>
    if name = ability.name then permissions name ++ [permission] else permissions name

def groupByAbilityName (permissions : List Permission) : PermissionMap :=
  permissions.foldl addPermission fun _ => []

theorem addPermission_apply (permissions : PermissionMap) (permission : Permission)
    (name : AbilityName) :
    addPermission permissions permission name =
      permissions name ++ [permission].filter (Permission.isNamed name) := by
  cases attached : permission.ability with
  | none => simp [addPermission, Permission.isNamed, attached]
  | some ability =>
    by_cases same : name = ability.name
    · simp [addPermission, Permission.isNamed, attached, same]
    · simp [addPermission, Permission.isNamed, attached, same, Ne.symm same]

theorem foldl_addPermission_apply (rows : List Permission) (permissions : PermissionMap)
    (name : AbilityName) :
    rows.foldl addPermission permissions name =
      permissions name ++ rows.filter (Permission.isNamed name) := by
  induction rows generalizing permissions with
  | nil => simp
  | cons row rest ih =>
    rw [foldl_cons, ih, addPermission_apply, append_assoc,
      ← filter_append, singleton_append]

/-- How a row ends the inner loop: it adds to the counter and breaks, or it
returns `false`. -/
inductive Verdict where
  | allow
  | forbid
  deriving DecidableEq

def globalVerdict (permission : Permission) : Option Verdict :=
  if permission.forbidden then
    some .forbid
  else
    match permission.ability with
    | none => none
    | some ability =>
      if ability.entityType ≠ none then
        none
      else if ability.entityType = none ∧ ability.entityID = none then
        some .allow
      else
        none

def entityVerdict (entityType : EntityType) (entityID : Nat) (permission : Permission) :
    Option Verdict :=
  if permission.forbidden then
    some .forbid
  else
    match permission.ability with
    | none => none
    | some ability =>
      if ability.entityType = none ∧ ability.entityID = none then
        some .allow
      else if ability.entityType = some entityType ∧ ability.entityID = none then
        some .allow
      else if ability.entityType = some entityType ∧
          ability.entityID = some entityID then
        some .allow
      else
        none

/-- How a row ends `CanAnyForEntity`: with an answer, or with a nil pointer
when the ability has an entity identifier and no entity type. -/
inductive AnyVerdict where
  | answer (allowed : Bool)
  | nilPointer
  deriving DecidableEq

def anyVerdict (entityType : EntityType) (entityID : Nat) (permission : Permission) :
    Option AnyVerdict :=
  match permission.ability with
  | none => none
  | some ability =>
    match ability.entityID with
    | none =>
      match ability.entityType with
      | none => some (.answer !permission.forbidden)
      | some abilityType =>
        if abilityType = entityType then
          some (.answer !permission.forbidden)
        else
          none
    | some abilityID =>
      match ability.entityType with
      | none => some .nilPointer
      | some abilityType =>
        if abilityType = entityType ∧ abilityID = entityID then
          some (.answer !permission.forbidden)
        else
          none

def countAllowed (verdict : Permission → Option Verdict) (permissions : PermissionMap) :
    List AbilityName → Nat → Option Nat
  | [], counter => some counter
  | name :: rest, counter =>
    match (permissions name).findSome? verdict with
    | some .forbid => none
    | some .allow => countAllowed verdict permissions rest (counter + 1)
    | none => countAllowed verdict permissions rest counter

def decideEach (verdict : Permission → Option Verdict) (permissions : PermissionMap)
    (abilities : List AbilityName) : Bool :=
  match countAllowed verdict permissions abilities 0 with
  | none => false
  | some counter => counter == abilities.length

def decideOneOf (permissions : PermissionMap) (abilities : List AbilityName) : Bool :=
  abilities.any fun name => (permissions name).any fun permission =>
    !permission.forbidden && permission.ability.any fun ability =>
      ability.entityType == none && ability.entityID == none

/-- What `CanAnyForEntity` makes of the row that ended its loops, if one did;
`none` is the run-time panic. -/
def anyOutcome : Option AnyVerdict → Option Bool
  | none => some false
  | some (.answer allowed) => some allowed
  | some .nilPointer => none

def decideAny (entityType : EntityType) (entityID : Nat) (permissions : PermissionMap)
    (abilities : List AbilityName) : Option Bool :=
  anyOutcome (abilities.findSome? fun name =>
    (permissions name).findSome? (anyVerdict entityType entityID))

section

variable (verdict : Permission → Option Verdict) (permissions : PermissionMap)
  (abilities : List AbilityName)

include verdict permissions abilities

theorem countAllowed_le (counter final : Nat)
    (counted : countAllowed verdict permissions abilities counter = some final) :
    final ≤ counter + abilities.length := by
  induction abilities generalizing counter with
  | nil =>
    cases counted
    exact Nat.le_refl _
  | cons name rest ih =>
    rw [countAllowed] at counted
    rw [length_cons]
    split at counted
    · contradiction
    · have bound := ih _ counted
      omega
    · have bound := ih _ counted
      omega

theorem countAllowed_eq_all (counter : Nat) : countAllowed verdict permissions abilities counter =
      some (counter + abilities.length) ↔
    ∀ name ∈ abilities, (permissions name).findSome? verdict = some .allow := by
  induction abilities generalizing counter with
  | nil => simp [countAllowed]
  | cons name rest ih =>
    rw [countAllowed, forall_mem_cons, length_cons]
    cases scanned : (permissions name).findSome? verdict with
    | none =>
      simp only [reduceCtorEq, false_and, iff_false]
      intro counted
      have bound := countAllowed_le verdict permissions rest counter _ counted
      omega
    | some decided =>
      cases decided with
      | forbid => simp
      | allow =>
        have shift : counter + (rest.length + 1) = counter + 1 + rest.length := by
          omega
        rw [shift]
        simpa using ih (counter + 1)

theorem decideEach_eq_true_iff : decideEach verdict permissions abilities = true ↔
    ∀ name ∈ abilities, (permissions name).findSome? verdict = some .allow := by
  rw [← countAllowed_eq_all verdict permissions abilities 0, decideEach]
  cases countAllowed verdict permissions abilities 0 <;> simp

end

def named {γ : Type} (name : AbilityName) (verdict : Permission → Option γ)
    (permission : Permission) : Option γ :=
  if permission.isNamed name then verdict permission else none

theorem findSome?_groupByAbilityName (rows : List Permission) (name : AbilityName)
    (verdict : Permission → Option γ) :
    (groupByAbilityName rows name).findSome? verdict = rows.findSome? (named name verdict) := by
  rw [groupByAbilityName, foldl_addPermission_apply, nil_append, findSome?_filter]
  rfl

def appliesTo (entityType : EntityType) (entityID : Nat) (ability : Ability) : Bool :=
  ability.entityType == none && ability.entityID == none ||
    ability.entityType == some entityType && ability.entityID == none ||
    ability.entityType == some entityType && ability.entityID == some entityID

def isAllow (name : AbilityName) (entityType : EntityType) (entityID : Nat)
    (permission : Permission) : Bool :=
  permission.isNamed name && !permission.forbidden &&
    permission.ability.any (appliesTo entityType entityID)

def isForbid (name : AbilityName) (permission : Permission) : Bool :=
  permission.isNamed name && permission.forbidden

theorem isNamed_of_isForbid (forbids : isForbid name permission = true) :
    permission.isNamed name = true := by
  simp only [isForbid, Bool.and_eq_true] at forbids
  exact forbids.1

theorem entityVerdict_eq (entityType : EntityType) (entityID : Nat) (permission : Permission) :
    entityVerdict entityType entityID permission = if permission.forbidden then some .forbid
      else if permission.ability.any (appliesTo entityType entityID) then some .allow
        else none := by
  unfold entityVerdict
  cases permission.ability with
  | none => rfl
  | some ability =>
    simp only [Option.any_some, appliesTo]
    split
    · rfl
    · split
      · simp_all
      · split
        · simp_all
        · split <;> simp_all

theorem named_entityVerdict_eq_forbid_iff :
    named name (entityVerdict entityType entityID) permission = some .forbid ↔
      isForbid name permission = true := by
  rw [named, entityVerdict_eq, isForbid]
  cases permission.isNamed name <;> cases permission.forbidden <;> simp

theorem named_entityVerdict_eq_allow_iff :
    named name (entityVerdict entityType entityID) permission = some .allow ↔
      isAllow name entityType entityID permission = true := by
  rw [named, entityVerdict_eq, isAllow]
  cases permission.isNamed name <;> cases permission.forbidden <;> simp

end ShadowPanel.Rbac
