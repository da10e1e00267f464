import ShadowPanel.Rbac.Mutation

namespace ShadowPanel.Rbac

open Data Domain Repositories List

private theorem RBAC.exists_order_of_query_eq_ok {rbac : RBAC driver}
    (current : rbac.Current userID) {read : Read}
    (answered : (rbac.query userID read decision).1 = .ok answer) :
    ∃ order, decision (permissionsOf rbac.repo userID order) = .ok answer := by
  rcases rbac.getAllPermissionsForUser_cases userID read with
    ⟨permissions, hit, passed⟩ | ⟨_, passed⟩ | ⟨_, failure, passed⟩
  · rw [query_of_ok decision passed] at answered
    obtain ⟨order, rfl⟩ := current permissions (PermissionCache.get_earlier (by omega) hit)
    exact ⟨order, answered⟩
  · rw [query_of_ok decision passed] at answered
    exact ⟨read.order, answered⟩
  · simp [RBAC.query, passed] at answered

section

variable {repo : RBACRepository driver}
  {restrictedToType : EntityType}

structure OnlyRestricted (repo : RBACRepository driver) (userID : Nat)
    (restrictedToType : EntityType) (restrictedToID : Nat) : Prop where
  noOwnRow : (layersFor repo userID).first = []
  restricted : ∀ role ∈ (layersFor repo userID).groups,
    role.restrictedToType = some restrictedToType ∧ role.restrictedToID = some restrictedToID

/-- What the filter for restricted roles does not look at: no row that allows
an ability on the identifier names another type. -/
def KeepsType (repo : RBACRepository driver) (userID : Nat) (restrictedToType : EntityType)
    (restrictedToID : Nat) : Prop :=
  ∀ role ∈ repo.roleRows userID .user,
    ∀ row ∈ repo.permissionRows role.id .role, row.forbidden = false →
      ∀ ability, row.ability = some ability → ability.entityID = some restrictedToID →
        ∀ entityType, ability.entityType = some entityType → entityType = restrictedToType

section

variable (only : OnlyRestricted repo userID restrictedToType restrictedToID)

include only

theorem mem_second_iff : row ∈ (layersFor repo userID).second ↔
    ∃ role ∈ repo.roleRows userID .user, row ∈ repo.permissionRows role.id .role ∧
        ∃ ability, row.ability = some ability ∧ ability.entityID = some restrictedToID := by
  rw [Layers.mem_second]
  apply exists_congr
  intro role
  apply and_congr_right
  intro assigned
  obtain ⟨typed, identified⟩ := only.restricted role assigned
  rw [Layers.mem_admitted]
  apply and_congr_right
  intro _
  simp only [layersFor, admits, typed, identified]
  cases row.ability <;> simp

theorem exists_row_of_decideEach
    (granted : decideEach verdict (permissionsOf repo userID order) [name] = true) :
    ∃ row ∈ (layersFor repo userID).second, row.isNamed name = true ∧
      verdict row = some .allow := by
  rw [decideEach_eq_true_iff] at granted
  have scanned := granted name (mem_singleton.mpr rfl)
  rw [permissionsOf, findSome?_groupByAbilityName] at scanned
  obtain ⟨row, member, decided⟩ := exists_of_findSome?_eq_some scanned
  rw [Layers.mem_read, only.noOwnRow] at member
  have inherited := member.resolve_left not_mem_nil
  unfold named at decided
  split at decided
  · rename_i isNamed
    exact ⟨row, inherited, isNamed, decided⟩
  · contradiction

private theorem not_decideEach_global (order : RowOrder) (name : AbilityName) :
    decideEach globalVerdict (permissionsOf repo userID order) [name] = false := by
  rw [← Bool.not_eq_true]
  intro granted
  obtain ⟨row, inherited, _, allows⟩ := exists_row_of_decideEach only granted
  obtain ⟨_, _, _, ability, attached, identified⟩ := (mem_second_iff only).mp inherited
  unfold globalVerdict at allows
  rw [attached] at allows
  split at allows
  · contradiction
  · simp only [identified] at allows
    split at allows <;> simp at allows

end

private theorem isAllow_inherited_iff (attached : row.ability = some ability)
    (identified : ability.entityID = some restrictedToID) :
    isAllow name entityType entityID row = true ↔
      ability.name = name ∧ row.forbidden = false ∧
        ability.entityType = some entityType ∧ restrictedToID = entityID := by
  simp [isAllow, Permission.isNamed, attached, appliesTo, identified, and_assoc]

end

namespace RBAC

structure Confined (rbac : RBAC driver) (userID : Nat) (restrictedToType : EntityType)
    (restrictedToID : Nat) : Prop where
  entity : ∀ (entityType : EntityType) (entityID : Nat) (name : AbilityName) (read : Read),
    (rbac.canForEntity userID entityType entityID [name] read).1 = .ok true →
      entityType = restrictedToType ∧ entityID = restrictedToID
  everywhere : ∀ (name : AbilityName) (read : Read), read.Steady →
    (rbac.can userID [name] read).1 = .ok false

theorem confined_iff_keepsType (rbac : RBAC driver) (userID : Nat) (restrictedToType : EntityType)
    (restrictedToID : Nat) (current : rbac.Current userID)
    (only : OnlyRestricted rbac.repo userID restrictedToType restrictedToID) :
    rbac.Confined userID restrictedToType restrictedToID ↔
      KeepsType rbac.repo userID restrictedToType restrictedToID := by
  constructor
  · intro confined role assigned row member allowed ability attached identified entityType typed
    have inherited := (mem_second_iff only).mpr
      ⟨role, assigned, member, ability, attached, identified⟩
    have allows : isAllow ability.name entityType restrictedToID row = true :=
      (isAllow_inherited_iff attached identified).mpr ⟨rfl, allowed, typed, rfl⟩
    have noForbid : ¬HasForbid ability.name (layersFor rbac.repo userID).first := by
      rw [only.noOwnRow]
      rintro ⟨_, inEmpty, _⟩
      exact not_mem_nil inEmpty
    obtain ⟨read, _, answered⟩ := (mayAnswer_iff_of_current current entityType
      restrictedToID ability.name true).mpr (.inr ⟨noForbid, row, inherited, allows⟩)
    exact (confined.entity _ _ _ read answered).1
  · intro keeps
    constructor
    · intro entityType entityID name read answered
      obtain ⟨order, granted⟩ := exists_order_of_query_eq_ok current answered
      obtain ⟨row, inherited, isNamed, decided⟩ :=
        exists_row_of_decideEach only (Except.ok.inj granted)
      obtain ⟨role, assigned, member, ability, attached, identified⟩ :=
        (mem_second_iff only).mp inherited
      have allows : named name (entityVerdict entityType entityID) row = some .allow := by
        simpa [named, isNamed] using decided
      obtain ⟨_, allowed, typed, same⟩ := (isAllow_inherited_iff attached identified).mp
        (named_entityVerdict_eq_allow_iff.mp allows)
      exact ⟨keeps role assigned row member allowed ability attached identified
        entityType typed, same.symm⟩
    · intro name read steady
      obtain ⟨order, decided⟩ := (exists_query_iff_of_current current
        (fun permissions => .ok (decideEach globalVerdict permissions [name])) _).mp
        ⟨read, steady, rfl⟩
      rw [not_decideEach_global only order name] at decided
      exact decided.symm

def viewOn123 (abilityType : EntityType) : Ability :=
  ⟨1, "view", none, some 123, some abilityType, false, none, none⟩

private theorem viewOn123_le_last (abilityType : EntityType) (row : Permission)
    (member : row ∈ [(⟨1, 1, some 1, some .role, false, none, none⟩ : Permission)]) :
    row.abilityID ≤ lastNumber ([viewOn123 abilityType].map Ability.id) := by
  rw [mem_singleton.mp member]
  exact Nat.le_refl 1

def restrictedTo123 (abilityType : EntityType) : RBAC .inMemory where
  repo :=
    .ofRows [⟨1, "moderator", none, none, none⟩]
      [⟨1, 1, 7, .user, some 123, some .server, none⟩] [viewOn123 abilityType]
      [⟨1, 1, some 1, some .role, false, none, none⟩]
      ⟨pairwise_singleton _ _, pairwise_singleton _ _, viewOn123_le_last abilityType⟩
  cache := .new 0
  now := 0

theorem confined_restrictedTo123 : (restrictedTo123 .server).Confined 7 .server 123 := by
  have only : OnlyRestricted (restrictedTo123 .server).repo 7 .server 123 :=
    ⟨rfl, by decide⟩
  refine (confined_iff_keepsType (restrictedTo123 .server) 7 .server 123
    (fun _ found => nomatch found) only).mpr ?_
  intro role assigned row member allowed ability attached identified
  revert role row ability
  decide

theorem restrictedTo123_not_confined : (restrictedTo123 .user).Current 7 ∧
    OnlyRestricted (restrictedTo123 .user).repo 7 .server 123 ∧
      ¬(restrictedTo123 .user).Confined 7 .server 123 := by
  refine ⟨fun _ found => (nomatch found), ⟨rfl, by decide⟩, ?_⟩
  intro confined
  have reached := confined.entity .user 123 "view" (.undisturbed storedOrder) rfl
  exact absurd reached.1 (by decide)

end RBAC

section

variable (entityType : EntityType) (entityID : Nat)

def Grants (row : Permission) : Prop :=
  row.forbidden = false ∧ ∃ ability, row.ability = some ability ∧
    appliesTo entityType entityID ability = true

def Untyped (row : Permission) : Prop :=
  ∃ ability, row.ability = some ability ∧ ability.entityType = none ∧ ability.entityID ≠ none

/-- The row ends the loops of `CanAnyForEntity`: its ability applies to the
entity, or has an identifier and no type. -/
def Ends (row : Permission) : Prop :=
  (∃ ability, row.ability = some ability ∧ appliesTo entityType entityID ability = true) ∨
    Untyped row

def GrantsFirst (rows : List Permission) : Prop :=
  ∃ before row behind, rows = before ++ row :: behind ∧
    Grants entityType entityID row ∧ ∀ earlier ∈ before, earlier.forbidden = false

/-- Read name by name, the row of the name is the first that ends the loops; the
rows of the name before it are given. -/
structure StopsAt (rows : AbilityName → List Permission) (abilities : List AbilityName)
    (name : AbilityName) (before : List Permission) (row : Permission) : Prop where
  names : ∃ earlier later, abilities = earlier ++ name :: later ∧
    ∀ other ∈ earlier, ∀ skipped ∈ rows other, ¬Ends entityType entityID skipped
  split : ∃ behind, rows name = before ++ row :: behind
  skipped : ∀ skipped ∈ before, ¬Ends entityType entityID skipped
  ends : Ends entityType entityID row

/-- The loops stop at a Forbidden row or at one with an identifier and no type,
though some listed name is allowed on the entity ahead of every Forbidden row of its
own; or they stop at an allowing row behind a Forbidden one of the same name for
another entity, and no other listed name is so allowed. -/
def Misled (rows : AbilityName → List Permission) (abilities : List AbilityName) : Prop :=
  ∃ name before row, StopsAt entityType entityID rows abilities name before row ∧
    ((row.forbidden = true ∨ Untyped row) ∧
        (∃ other ∈ abilities, GrantsFirst entityType entityID (rows other)) ∨
      Grants entityType entityID row ∧ (∃ skipped ∈ before, skipped.forbidden = true) ∧
        ∀ other ∈ abilities, other ≠ name → ¬GrantsFirst entityType entityID (rows other))

variable {entityType entityID}

theorem Grants.ends (grants : Grants entityType entityID row) : Ends entityType entityID row := by
  exact .inl grants.2

private theorem not_grants_iff_of_ends (ends : Ends entityType entityID row) :
    ¬Grants entityType entityID row ↔ row.forbidden = true ∨ Untyped row := by
  rw [← Bool.not_eq_false]
  constructor
  · intro denied
    rcases ends with applies | untyped
    · exact .inl fun allowed => denied ⟨allowed, applies⟩
    · exact .inr untyped
  · rintro (forbidden | ⟨ability, attached, typeless, identified⟩) ⟨allowed, other, same, applies⟩
    · exact forbidden allowed
    · cases attached.symm.trans same
      simp [appliesTo, typeless, identified] at applies

theorem entityVerdict_eq_allow_iff :
    entityVerdict entityType entityID row = some .allow ↔ Grants entityType entityID row := by
  rw [entityVerdict_eq, Grants]
  cases row.forbidden <;> simp [Option.any_eq_true]

theorem entityVerdict_eq_forbid_iff :
    entityVerdict entityType entityID row = some .forbid ↔ row.forbidden = true := by
  rw [entityVerdict_eq]
  cases row.forbidden <;> simp

private theorem anyVerdict_eq_true_iff :
    anyVerdict entityType entityID row = some (.answer true) ↔ Grants entityType entityID row := by
  unfold anyVerdict Grants
  cases row.ability with
  | none => simp
  | some ability =>
    rcases identified : ability.entityID with _ | abilityID <;>
      rcases typed : ability.entityType with _ | abilityType <;>
        simp [appliesTo, identified, typed, and_comm]

theorem anyVerdict_eq_none_iff :
    anyVerdict entityType entityID row = none ↔ ¬Ends entityType entityID row := by
  unfold anyVerdict Ends Untyped
  cases row.ability with
  | none => simp
  | some ability =>
    rcases identified : ability.entityID with _ | abilityID <;>
      rcases typed : ability.entityType with _ | abilityType <;> simp [appliesTo, identified, typed]

private theorem grantsFirst_cons_of_silent (silent : entityVerdict entityType entityID row = none) :
    GrantsFirst entityType entityID (row :: rows) ↔ GrantsFirst entityType entityID rows := by
  have notForbidden : row.forbidden = false := by
    rw [← Bool.not_eq_true, ← entityVerdict_eq_forbid_iff, silent]
    simp
  constructor
  · rintro ⟨before, granting, behind, split, grants, allowed⟩
    cases before with
    | nil =>
      cases split
      rw [entityVerdict_eq_allow_iff.mpr grants] at silent
      contradiction
    | cons first before =>
      cases split
      exact ⟨before, granting, behind, rfl, grants,
        fun earlier member => allowed earlier (mem_cons_of_mem _ member)⟩
  · rintro ⟨before, granting, behind, rfl, grants, allowed⟩
    refine ⟨row :: before, granting, behind, rfl, grants, ?_⟩
    intro earlier member
    rcases mem_cons.mp member with rfl | inBefore
    · exact notForbidden
    · exact allowed earlier inBefore

theorem findSome?_entityVerdict_eq_allow_iff (rows : List Permission) :
    rows.findSome? (entityVerdict entityType entityID) = some .allow ↔
      GrantsFirst entityType entityID rows := by
  induction rows with
  | nil => simp [GrantsFirst]
  | cons row rows ih =>
    rw [findSome?_cons]
    cases decided : entityVerdict entityType entityID row with
    | none => rw [grantsFirst_cons_of_silent decided, ← ih]
    | some verdict =>
      cases verdict with
      | allow =>
        have grants := entityVerdict_eq_allow_iff.mp decided
        simp only [true_iff]
        exact ⟨[], row, rows, rfl, grants, by simp⟩
      | forbid =>
        have forbidden := entityVerdict_eq_forbid_iff.mp decided
        simp only [Option.some.injEq, reduceCtorEq, false_iff]
        rintro ⟨before, granting, behind, split, grants, allowed⟩
        cases before with
        | nil =>
          cases split
          rw [grants.1] at forbidden
          contradiction
        | cons first before =>
          cases split
          rw [allowed row mem_cons_self] at forbidden
          contradiction

private theorem decideEach_singleton_iff (permissions : PermissionMap) (name : AbilityName) :
    decideEach (entityVerdict entityType entityID) permissions [name] = true ↔
      GrantsFirst entityType entityID (permissions name) := by
  rw [decideEach_eq_true_iff, ← findSome?_entityVerdict_eq_allow_iff]
  simp

private theorem decideAny_iff_of_stopsAt
    (stops : StopsAt entityType entityID permissions abilities name before row) :
    decideAny entityType entityID permissions abilities = some true ↔
      Grants entityType entityID row := by
  obtain ⟨earlier, later, rfl, skippedNames⟩ := stops.names
  obtain ⟨behind, split⟩ := stops.split
  obtain ⟨verdict, decided⟩ : ∃ verdict, anyVerdict entityType entityID row = some verdict := by
    rw [← Option.ne_none_iff_exists']
    intro silent
    exact anyVerdict_eq_none_iff.mp silent stops.ends
  have own : (permissions name).findSome? (anyVerdict entityType entityID) = some verdict :=
    findSome?_eq_some_iff.mpr ⟨before, row, behind, split, decided,
      fun skipped member => anyVerdict_eq_none_iff.mpr (stops.skipped skipped member)⟩
  have scanned : ((earlier ++ name :: later).findSome? fun name =>
      (permissions name).findSome? (anyVerdict entityType entityID)) = some verdict :=
    findSome?_eq_some_iff.mpr ⟨earlier, name, later, rfl, own, fun other member =>
      findSome?_eq_none_iff.mpr fun skipped inRows =>
        anyVerdict_eq_none_iff.mpr (skippedNames other member skipped inRows)⟩
  rw [decideAny, scanned, ← anyVerdict_eq_true_iff, decided]
  rcases verdict with _ | _ <;> simp [anyOutcome]

private theorem stopsAt_or_none (permissions : PermissionMap) (abilities : List AbilityName) :
    (∃ name before row, StopsAt entityType entityID permissions abilities name before row) ∨
      decideAny entityType entityID permissions abilities = some false ∧
        ∀ name ∈ abilities, ∀ row ∈ permissions name, ¬Ends entityType entityID row := by
  cases scanned : abilities.findSome? fun name =>
      (permissions name).findSome? (anyVerdict entityType entityID) with
  | none =>
    refine .inr ⟨by rw [decideAny, scanned]; rfl, fun name listed row member => ?_⟩
    have silent := findSome?_eq_none_iff.mp (findSome?_eq_none_iff.mp scanned name listed)
    exact anyVerdict_eq_none_iff.mp (silent row member)
  | some verdict =>
    obtain ⟨earlier, name, later, names, own, silentNames⟩ := findSome?_eq_some_iff.mp scanned
    obtain ⟨before, row, behind, split, decided, silent⟩ := findSome?_eq_some_iff.mp own
    refine .inl ⟨name, before, row, ⟨earlier, later, names, ?_⟩, ⟨behind, split⟩, ?_, ?_⟩
    · intro other member skipped inRows
      exact anyVerdict_eq_none_iff.mp
        (findSome?_eq_none_iff.mp (silentNames other member) skipped inRows)
    · exact fun skipped member => anyVerdict_eq_none_iff.mp (silent skipped member)
    · refine Classical.byContradiction fun passed => ?_
      rw [anyVerdict_eq_none_iff.mpr passed] at decided
      contradiction

private theorem mem_of_grantsFirst (grantsFirst : GrantsFirst entityType entityID rows) :
    ∃ row ∈ rows, Grants entityType entityID row := by
  obtain ⟨before, row, behind, rfl, grants, _⟩ := grantsFirst
  exact ⟨row, mem_append_right before mem_cons_self, grants⟩

private theorem StopsAt.not_grantsFirst
    (stops : StopsAt entityType entityID rows abilities name before row)
    (forbidden : ∃ skipped ∈ before, skipped.forbidden = true) :
    ¬GrantsFirst entityType entityID (rows name) := by
  obtain ⟨behind, split⟩ := stops.split
  obtain ⟨skipped, member, forbids⟩ := forbidden
  rintro ⟨ahead, granting, rest, same, grants, allowed⟩
  rw [split] at same
  rcases append_eq_append_iff.mp same with ⟨between, rfl, -⟩ | ⟨between, rfl, granted⟩
  · rw [allowed skipped (mem_append_left _ member)] at forbids
    contradiction
  · cases between with
    | nil =>
      rw [allowed skipped (by simpa using member)] at forbids
      contradiction
    | cons first between =>
      cases granted
      exact stops.skipped granting (by simp) grants.ends

theorem decideAny_iff_exists_iff (permissions : PermissionMap) (abilities : List AbilityName) :
    (decideAny entityType entityID permissions abilities = some true ↔
      ∃ name ∈ abilities, GrantsFirst entityType entityID (permissions name)) ↔
      ¬Misled entityType entityID permissions abilities := by
  constructor
  · rintro agrees ⟨name, before, row, stops, wrong⟩
    rw [decideAny_iff_of_stopsAt stops] at agrees
    rcases wrong with ⟨denied, allowed⟩ | ⟨grants, forbidden, none⟩
    · exact (not_grants_iff_of_ends stops.ends).mpr denied (agrees.mpr allowed)
    · obtain ⟨other, listed, grantsFirst⟩ := agrees.mp grants
      by_cases same : other = name
      · exact stops.not_grantsFirst forbidden (same ▸ grantsFirst)
      · exact none other listed same grantsFirst
  · intro straight
    rcases stopsAt_or_none permissions abilities with ⟨name, before, row, stops⟩ | ⟨denied, silent⟩
    · rw [decideAny_iff_of_stopsAt stops]
      constructor
      · intro grants
        refine Classical.byContradiction fun none => straight ⟨name, before, row, stops,
          .inr ⟨grants, ?_, fun other listed _ grantsFirst => none ⟨other, listed, grantsFirst⟩⟩⟩
        refine Classical.byContradiction fun allowed => none ⟨name, ?_, before, row, ?_⟩
        · obtain ⟨earlier, later, rfl, -⟩ := stops.names
          simp
        · obtain ⟨behind, split⟩ := stops.split
          refine ⟨behind, split, grants, fun earlier member => ?_⟩
          exact Bool.eq_false_iff.mpr fun forbidden => allowed ⟨earlier, member, forbidden⟩
      · intro allowed
        refine Classical.byContradiction fun denied => straight ⟨name, before, row, stops, .inl ⟨?_,
          allowed⟩⟩
        exact (not_grants_iff_of_ends stops.ends).mp denied
    · rw [denied]
      refine iff_of_false (by simp) ?_
      rintro ⟨name, listed, grantsFirst⟩
      obtain ⟨row, member, grants⟩ := mem_of_grantsFirst grantsFirst
      exact silent name listed row member grants.ends

end

namespace RBAC

/-- The two queries over the list answer as the queries about its single names
say, all of them asked in one state and under one reading. -/
structure NamesAgree (rbac : RBAC driver) (userID : Nat) (entityType : EntityType) (entityID : Nat)
    (abilities : List AbilityName) (read : Read) : Prop where
  every : (rbac.canForEntity userID entityType entityID abilities read).1 = .ok true ↔
    ∀ name ∈ abilities,
      (rbac.canForEntity userID entityType entityID [name] read).1 = .ok true
  some : (rbac.canAnyForEntity userID entityType entityID abilities read).1 = .ok true ↔
    ∃ name ∈ abilities,
      (rbac.canForEntity userID entityType entityID [name] read).1 = .ok true

section

variable {rbac : RBAC driver} {read : Read} (entityType : EntityType)
  (entityID : Nat) (abilities : List AbilityName)

private theorem canForEntity_eq_true_iff
    (passed : (rbac.getAllPermissionsForUser userID read).1 = .ok permissions) :
    (rbac.canForEntity userID entityType entityID abilities read).1 = .ok true ↔
      decideEach (entityVerdict entityType entityID) permissions abilities = true := by
  rw [canForEntity, query_of_ok _ (Prod.ext passed rfl), Except.ok.injEq]

private theorem canAnyForEntity_eq_true_iff
    (passed : (rbac.getAllPermissionsForUser userID read).1 = .ok permissions) :
    (rbac.canAnyForEntity userID entityType entityID abilities read).1 = .ok true ↔
      decideAny entityType entityID permissions abilities = some true := by
  rw [canAnyForEntity, query_of_ok _ (Prod.ext passed rfl)]
  cases decideAny entityType entityID permissions abilities <;> simp

private theorem not_query_of_error {failure : Failure}
    (passed : (rbac.getAllPermissionsForUser userID read).1 = .error failure)
    (decision : PermissionMap → Except Failure Bool) (answer : Bool) :
    (rbac.query userID read decision).1 ≠ .ok answer := by
  rw [query, show rbac.getAllPermissionsForUser userID read =
    (.error failure, (rbac.getAllPermissionsForUser userID read).2) from
      Prod.ext passed rfl]
  simp

private theorem namesAgree_of_error (nonempty : abilities ≠ []) {failure : Failure}
    (passed : (rbac.getAllPermissionsForUser userID read).1 = .error failure) :
    rbac.NamesAgree userID entityType entityID abilities read := by
  obtain ⟨first, listed⟩ := exists_mem_of_ne_nil abilities nonempty
  constructor
  · constructor
    · intro answered
      exact absurd answered (not_query_of_error passed _ true)
    · intro each
      exact absurd (each first listed) (not_query_of_error passed _ true)
  · constructor
    · intro answered
      exact absurd answered (not_query_of_error passed _ true)
    · rintro ⟨name, _, answered⟩
      exact absurd answered (not_query_of_error passed _ true)

end

/-- The rows of each name that are in force for the user: those in the cache, or
those in the tables, the user's own ahead of the ones of the roles. -/
def rowsInForce (rbac : RBAC driver) (userID : Nat) (read : Read) (name : AbilityName) :
    List Permission :=
  match rbac.cache.get (userKey userID) (rbac.now + read.wait) with
  | some permissions => permissions name
  | none => ((layersFor rbac.repo userID).read read.order).filter (Permission.isNamed name)

private theorem eq_rowsInForce {rbac : RBAC driver} {read : Read}
    (passed : (rbac.getAllPermissionsForUser userID read).1 = .ok permissions) :
    permissions = rbac.rowsInForce userID read := by
  funext name
  rcases rbac.getAllPermissionsForUser_cases userID read with
    ⟨cached, hit, result⟩ | ⟨missed, result⟩ | ⟨_, failure, result⟩ <;> rw [result] at passed <;>
    cases passed
  · rw [rowsInForce, hit]
  · rw [rowsInForce, missed, permissionsOf, groupByAbilityName, foldl_addPermission_apply,
      nil_append]

/-- The queries over a list agree with those about its single names exactly when the
rows in force do not mislead the loops, or cannot be loaded. -/
theorem namesAgree_iff_not_misled (rbac : RBAC driver) (userID : Nat) (entityType : EntityType)
    (entityID : Nat) (abilities : List AbilityName) (nonempty : abilities ≠ []) (read : Read) :
    rbac.NamesAgree userID entityType entityID abilities read ↔
      ¬Misled entityType entityID (rbac.rowsInForce userID read) abilities ∨
        ∃ failure, (rbac.getAllPermissionsForUser userID read).1 = .error failure := by
  cases passed : (rbac.getAllPermissionsForUser userID read).1 with
  | error failure =>
    have agree := namesAgree_of_error entityType entityID abilities nonempty passed
    simp [agree]
  | ok permissions =>
    rw [← eq_rowsInForce passed, ← decideAny_iff_exists_iff]
    have single : ∀ name, (rbac.canForEntity userID entityType entityID [name] read).1 =
        .ok true ↔ GrantsFirst entityType entityID (permissions name) := by
      intro name
      rw [canForEntity_eq_true_iff entityType entityID [name] passed, decideEach_singleton_iff]
    constructor
    · intro agree
      have anyOf := agree.some
      rw [canAnyForEntity_eq_true_iff entityType entityID abilities passed] at anyOf
      exact .inl (by simpa only [single] using anyOf)
    · rintro (anyOf | ⟨failure, impossible⟩)
      · constructor
        · rw [canForEntity_eq_true_iff entityType entityID abilities passed,
            decideEach_eq_true_iff]
          simp only [single, findSome?_entityVerdict_eq_allow_iff]
        · rw [canAnyForEntity_eq_true_iff entityType entityID abilities passed]
          simpa only [single] using anyOf
      · cases impossible

def restartForbidden : RBAC .inMemory where
  repo :=
    .ofRows [] []
      [⟨1, "restart", none, some 5, some .server, false, none, none⟩,
        ⟨2, "view", none, some 5, some .server, false, none, none⟩]
      [⟨1, 1, some 7, some .user, true, none, none⟩,
        ⟨2, 2, some 7, some .user, false, none, none⟩] (by decide)
  cache := .new 0
  now := 0

theorem namesAgree_restartForbidden_view_first :
    restartForbidden.NamesAgree 7 .server 5 ["view", "restart"] (.undisturbed storedOrder) := by
  refine (namesAgree_iff_not_misled restartForbidden 7 .server 5 ["view", "restart"]
    (cons_ne_nil _ _) (.undisturbed storedOrder)).mpr (.inl ?_)
  apply (decideAny_iff_exists_iff _ _).mp
  apply iff_of_true rfl
  exact ⟨"view", mem_cons_self, (findSome?_entityVerdict_eq_allow_iff _).mp rfl⟩

theorem restartForbidden_not_namesAgree :
    ¬restartForbidden.NamesAgree 7 .server 5 ["restart", "view"] (.undisturbed storedOrder) := by
  intro agree
  have answered := agree.some.mpr ⟨"view", mem_cons_of_mem _ mem_cons_self, rfl⟩
  exact Bool.false_ne_true (Except.ok.inj answered)

end RBAC

end ShadowPanel.Rbac
