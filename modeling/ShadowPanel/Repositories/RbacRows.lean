import ShadowPanel.Repositories.Rbac

namespace ShadowPanel.Repositories

open Data Domain List

/-! What the writes of the role and permission tables do to the rows that its
reads return. -/

@[simp] theorem Driver.joined_append (driver : Driver) (first second : List Permission) :
    driver.joined (first ++ second) = driver.joined first ++ driver.joined second := by
  cases driver <;> simp [Driver.joined]

@[simp] theorem Driver.joined_filter (driver : Driver) (select : Permission → Bool)
    (rows : List Permission) :
    driver.joined (rows.filter select) = (driver.joined rows).filter select := by
  cases driver with
  | inMemory => rfl
  | sql => simp only [Driver.joined, filter_filter, Bool.and_comm]

private theorem Driver.joined_of_attached (driver : Driver)
    (attached : ∀ row ∈ rows, row.ability.isSome = true) : driver.joined rows = rows := by
  cases driver with
  | inMemory => rfl
  | sql => exact filter_eq_self.mpr attached

def abilitiesForEntity (names : List AbilityName) (entityID : Nat) (entityType : EntityType) :
    List Ability :=
  names.map fun name => createAbilityForEntity name entityID entityType

def isExactly (names : List AbilityName) (entityID : Nat) (entityType : EntityType)
    (permission : Permission) : Bool :=
  permission.ability.any fun ability =>
    names.contains ability.name && ability.entityID == some entityID &&
      ability.entityType == some entityType && ability.scope == none

def exactKey (name : AbilityName) (entityID : Nat) (entityType : EntityType) : AbilityKey where
  name := name
  entityID := some entityID
  entityType := some entityType
  scope := none

theorem isExactly_iff : isExactly names entityID entityType permission = true ↔
    ∃ ability, permission.ability = some ability ∧
      ∃ name ∈ names, abilityKey ability = exactKey name entityID entityType := by
  simp only [isExactly, Option.any_eq_true, Bool.and_eq_true, beq_iff_eq, contains_iff_mem]
  constructor
  · rintro ⟨ability, present, ⟨⟨named, sameID⟩, sameType⟩, sameScope⟩
    refine ⟨ability, present, ability.name, named, ?_⟩
    simp [abilityKey, exactKey, sameID, sameType, sameScope]
  · rintro ⟨ability, present, name, named, sameKey⟩
    simp only [abilityKey, exactKey, AbilityKey.mk.injEq] at sameKey
    obtain ⟨rfl, sameID, sameType, sameScope⟩ := sameKey
    exact ⟨ability, present, ⟨⟨named, sameID⟩, sameType⟩, sameScope⟩

namespace RBACRepository

variable {store : RBACRepository driver} {user : Nat}
  {userType entityType : EntityType} {forbidden : Bool}

private theorem contains_findAbilityIDs (permission : Permission) :
    (store.findAbilityIDs (abilitiesForEntity names entityID entityType)).contains
        permission.abilityID =
      isExactly names entityID entityType (store.attachAbility permission) := by
  rw [Bool.eq_iff_iff, contains_iff_mem, mem_findAbilityIDs, isExactly_iff]
  simp only [abilitiesForEntity, mem_map]
  constructor
  · rintro ⟨existing, member, refers, _, ⟨name, named, rfl⟩, sameKey⟩
    refine ⟨existing, ?_, name, named, sameKey⟩
    simp only [attachAbility, ← refers]
    exact find?_key_of_mem store.abilities_nodup member
  · rintro ⟨existing, attached, name, named, sameKey⟩
    have refers : existing.id = permission.abilityID := by
      simpa using find?_some attached
    exact ⟨existing, mem_of_find?_eq_some attached, refers, _, ⟨name, named, rfl⟩, sameKey⟩

theorem permissionRows_revoke : (store.revoke user userType
      (abilitiesForEntity names entityID entityType)).permissionRows user userType =
    (store.permissionRows user userType).filter fun permission =>
      !isExactly names entityID entityType permission := by
  have rows :
      ((store.permissions.filter fun permission =>
          !(isOwnedBy user userType permission &&
            (store.findAbilityIDs (abilitiesForEntity names entityID
              entityType)).contains permission.abilityID)).filter
          (isOwnedBy user userType)).map store.attachAbility =
        ((store.permissions.filter (isOwnedBy user userType)).map
          store.attachAbility).filter fun permission =>
            !isExactly names entityID entityType permission := by
    rw [filter_filter, filter_map, filter_filter]
    congr 1
    apply filter_congr
    intro permission _
    rw [contains_findAbilityIDs]
    cases isOwnedBy user userType permission <;> simp
  unfold permissionRows
  rw [← Driver.joined_filter, ← rows]
  rfl

theorem permissionRows_revoke_of_ne {abilities : List Ability}
    (other : ¬(entityID = user ∧ entityType = userType)) :
    (store.revoke user userType abilities).permissionRows entityID entityType =
      store.permissionRows entityID entityType := by
  have rows :
      (store.revoke user userType abilities).permissions.filter
          (isOwnedBy entityID entityType) =
        store.permissions.filter (isOwnedBy entityID entityType) := by
    simp only [revoke]
    rw [filter_filter]
    apply filter_congr
    intro permission _
    cases owned : isOwnedBy entityID entityType permission with
    | false => simp
    | true =>
      simp only [isOwnedBy, Bool.and_eq_true, beq_iff_eq] at owned
      simp [isOwnedBy, owned, Classical.not_and_iff_not_or_not.mp other]
  unfold permissionRows
  rw [rows]
  rfl

inductive Grown (store : RBACRepository driver) : RBACRepository driver → Prop
  | refl : Grown store store
  | insert {current : RBACRepository driver} (grown : Grown store current)
      (ability : Ability)
      (absent : driver = .inMemory → abilityKey ability ∉ current.abilities.map abilityKey) :
      Grown store (current.insertAbility ability absent)

theorem insertAbility_abilities (store : RBACRepository driver) (ability : Ability)
    (absent : driver = .inMemory → abilityKey ability ∉ store.abilities.map abilityKey) :
    (store.insertAbility ability absent).abilities =
      store.abilities ++ [{ ability with id := store.nextAbilityID + 1 }] := by
  apply assign_of_fresh
  intro existing member
  exact Nat.ne_of_lt (Nat.lt_succ_of_le (store.abilities_le existing member))

namespace Grown

variable (grown : Grown store grownStore)

include grown

theorem roles : grownStore.roles = store.roles := by
  induction grown with
  | refl => rfl
  | insert _ _ _ ih => exact ih

theorem assignedRoles : grownStore.assignedRoles = store.assignedRoles := by
  induction grown with
  | refl => rfl
  | insert _ _ _ ih => exact ih

theorem permissions : grownStore.permissions = store.permissions := by
  induction grown with
  | refl => rfl
  | insert _ _ _ ih => exact ih

theorem abilities_subset : store.abilities ⊆ grownStore.abilities := by
  induction grown with
  | refl => exact List.Subset.refl _
  | insert _ ability absent ih =>
    intro existing member
    rw [insertAbility_abilities]
    exact mem_append_left _ (ih member)

private theorem nextAbilityID_le : store.nextAbilityID ≤ grownStore.nextAbilityID := by
  induction grown with
  | refl => exact Nat.le_refl _
  | insert _ _ _ ih => exact Nat.le_succ_of_le ih

theorem attachAbility (permission : Permission)
    (refers : permission.abilityID ≤ store.nextAbilityID) :
    grownStore.attachAbility permission = store.attachAbility permission := by
  induction grown with
  | refl => rfl
  | insert grown ability absent ih =>
    rw [← ih]
    have known := Nat.le_trans refers grown.nextAbilityID_le
    have different := Nat.ne_of_gt (Nat.lt_succ_of_le known)
    simp only [RBACRepository.attachAbility, insertAbility_abilities]
    congr 1
    simp [different]

theorem permissionRows :
    grownStore.permissionRows entityID entityType = store.permissionRows entityID entityType := by
  unfold RBACRepository.permissionRows
  rw [grown.permissions]
  congr 1
  apply map_congr_left
  intro permission member
  exact grown.attachAbility permission
    (store.references_le permission (mem_filter.mp member).1)

theorem trans (further : Grown grownStore last) : Grown store last := by
  induction further with
  | refl => exact grown
  | insert _ ability absent ih => exact .insert ih ability absent

end Grown

theorem foldl_grown (step : ∀ current ability, Grown current (save current ability))
    (abilities : List Ability) (store : RBACRepository driver) :
    Grown store (abilities.foldl save store) := by
  induction abilities generalizing store with
  | nil => exact .refl
  | cons ability rest ih =>
    exact (step store ability).trans (ih (save store ability))

theorem saveOrGetAbility_grown (store : RBACRepository driver) (ability : Ability) :
    Grown store (store.saveOrGetAbility ability) := by
  unfold saveOrGetAbility
  split
  · exact .refl
  · exact .insert .refl ability _

theorem saveAbilities_grown (store : RBACRepository driver) (abilities : List Ability) :
    Grown store (store.saveAbilities abilities) := by
  cases driver with
  | inMemory => exact foldl_grown saveOrGetAbility_grown abilities store
  | sql => exact foldl_grown (fun _ ability => .insert .refl ability _) _ store

theorem exists_key_foldl (step : ∀ current ability, Grown current (save current ability))
    (saved : ∀ current ability, ∃ existing ∈ (save current ability).abilities, abilityKey existing =
      abilityKey ability) {abilities : List Ability} (store : RBACRepository driver)
    (member : ability ∈ abilities) :
    ∃ existing ∈ (abilities.foldl save store).abilities,
      abilityKey existing = abilityKey ability := by
  induction abilities generalizing store with
  | nil => simp at member
  | cons head rest ih =>
    rcases mem_cons.mp member with rfl | later
    · obtain ⟨existing, present, sameKey⟩ := saved store ability
      exact ⟨existing, (foldl_grown step rest _).abilities_subset present, sameKey⟩
    · exact ih (save store head) later

theorem exists_key_insertAbility (store : RBACRepository driver) (ability : Ability)
    (absent : driver = .inMemory → abilityKey ability ∉ store.abilities.map abilityKey) :
    ∃ existing ∈ (store.insertAbility ability absent).abilities,
      abilityKey existing = abilityKey ability := by
  rw [insertAbility_abilities]
  exact ⟨{ ability with id := store.nextAbilityID + 1 }, by simp, rfl⟩

private theorem exists_key_saveOrGetAbility (store : RBACRepository driver) (ability : Ability) :
    ∃ existing ∈ (store.saveOrGetAbility ability).abilities,
      abilityKey existing = abilityKey ability := by
  unfold saveOrGetAbility
  split
  · rename_i present
    obtain ⟨existing, member, matching⟩ := any_eq_true.mp present
    exact ⟨existing, member, (abilitiesMatch_iff existing ability).mp matching⟩
  · exact store.exists_key_insertAbility ability _

private theorem exists_key_of_mem_existingAbilityKeys
    (known : abilityUniqueKeyFromAbility (createAbilityForEntity name entityID entityType) ∈
      store.existingAbilityKeys (abilitiesForEntity names entityID entityType)) :
    ∃ existing ∈ store.abilities, abilityKey existing = exactKey name entityID entityType := by
  obtain ⟨existing, selected, sameUnique⟩ := mem_map.mp known
  obtain ⟨member, matching⟩ := mem_filter.mp selected
  obtain ⟨input, inputMember, inputMatches⟩ := any_eq_true.mp matching
  obtain ⟨other, _, rfl⟩ := mem_map.mp inputMember
  have sameKey := (abilitiesMatch_iff existing _).mp inputMatches
  have sameName : existing.name = name := congrArg AbilityUniqueKey.name sameUnique
  refine ⟨existing, member, ?_⟩
  simp only [abilityKey, exactKey, AbilityKey.mk.injEq] at sameKey ⊢
  exact ⟨sameName, sameKey.2⟩

private theorem exists_key_saveNewAbilities {store : RBACRepository .sql} (named : name ∈ names) :
    ∃ existing ∈ (store.saveNewAbilities (abilitiesForEntity names entityID entityType)).abilities,
      abilityKey existing = exactKey name entityID entityType := by
  by_cases known : abilityUniqueKeyFromAbility
      (createAbilityForEntity name entityID entityType) ∈
        store.existingAbilityKeys (abilitiesForEntity names entityID entityType)
  · obtain ⟨existing, member, sameKey⟩ :=
      exists_key_of_mem_existingAbilityKeys known
    exact ⟨existing, (store.saveAbilities_grown _).abilities_subset member, sameKey⟩
  · refine exists_key_foldl (fun _ ability => .insert .refl ability _)
      (fun current ability => current.exists_key_insertAbility ability _) store
      (mem_filter.mpr ⟨mem_map_of_mem named, ?_⟩)
    simpa using known

private theorem exists_key_saveAbilities (named : name ∈ names) : ∃ existing ∈
      (store.saveAbilities (abilitiesForEntity names entityID entityType)).abilities,
    abilityKey existing = exactKey name entityID entityType := by
  cases driver with
  | inMemory =>
    exact exists_key_foldl saveOrGetAbility_grown exists_key_saveOrGetAbility store
      (mem_map_of_mem named)
  | sql => exact exists_key_saveNewAbilities named

theorem insertPermission_permissions (known : abilityID ≤ store.nextAbilityID) :
    (store.insertPermission entityID entityType forbidden abilityID known).permissions =
      store.permissions ++ [store.newPermission entityID entityType forbidden abilityID] := by
  apply assign_of_fresh
  intro existing member
  exact Nat.ne_of_lt (Nat.lt_succ_of_le (store.permissions_le existing member))

variable {abilityIDs : List Nat} (known : ∀ id ∈ abilityIDs, id ≤ store.nextAbilityID)

private theorem roleRows_insertPermissions :
    (store.insertPermissions user userType forbidden abilityIDs
      known).roleRows entityID entityType = store.roleRows entityID entityType := by
  induction abilityIDs generalizing store with
  | nil => rfl
  | cons _ _ ih => exact ih _

private theorem permissionRows_insertPermission (member : ability ∈ store.abilities)
    (known : ability.id ≤ store.nextAbilityID) :
    (store.insertPermission user userType forbidden ability.id known).permissionRows user userType =
      store.permissionRows user userType ++
        [{ store.newPermission user userType forbidden ability.id with
           ability := some ability }] := by
  have found : store.abilities.find? (fun other => other.id == ability.id) = some ability :=
    find?_key_of_mem store.abilities_nodup member
  unfold permissionRows
  rw [insertPermission_permissions, filter_append, map_append, Driver.joined_append]
  congr 1
  rw [Driver.joined_of_attached] <;>
    simp [isOwnedBy, attachAbility, insertPermission, newPermission, found]

private theorem permissionRows_insertPermission_of_ne (known : abilityID ≤ store.nextAbilityID)
    (other : ¬(entityID = user ∧ entityType = userType)) :
    (store.insertPermission user userType forbidden abilityID known).permissionRows
        entityID entityType = store.permissionRows entityID entityType := by
  have notOwned : isOwnedBy entityID entityType
      (store.newPermission user userType forbidden abilityID) = false := by
    simpa [isOwnedBy, newPermission] using fun sameID sameType => other ⟨sameID.symm, sameType.symm⟩
  unfold permissionRows
  rw [insertPermission_permissions, filter_append,
    filter_cons_of_neg (by simp [notOwned]), filter_nil, append_nil]
  rfl

private theorem permissionRows_insertPermissions
    (present : ∀ id ∈ abilityIDs, ∃ ability ∈ store.abilities, ability.id = id) :
    ∃ added,
      (store.insertPermissions user userType forbidden abilityIDs
          known).permissionRows user userType = store.permissionRows user userType ++ added ∧
      (∀ row ∈ added, row.forbidden = forbidden ∧
        ∃ ability ∈ store.abilities, ability.id ∈ abilityIDs ∧
          row.ability = some ability) ∧
      ∀ ability ∈ store.abilities, ability.id ∈ abilityIDs →
        ∃ row ∈ added, row.ability = some ability := by
  induction abilityIDs generalizing store with
  | nil => exact ⟨[], by simp [insertPermissions], by simp, by simp⟩
  | cons abilityID rest ih =>
    obtain ⟨first, firstMember, rfl⟩ := present abilityID (by simp)
    let inserted := store.insertPermission user userType forbidden first.id (known _ (by simp))
    have later : ∀ id ∈ rest, id ≤ inserted.nextAbilityID :=
      fun id member => known id (by simp [member])
    obtain ⟨added, rows, sound, complete⟩ := ih later
      (fun id member => present id (by simp [member]))
    let attachedFirst : Permission :=
      { store.newPermission user userType forbidden first.id with
        ability := some first }
    refine ⟨attachedFirst :: added, ?_, ?_, ?_⟩
    · rw [insertPermissions, rows, permissionRows_insertPermission firstMember]
      simp [attachedFirst]
    · intro row member
      rcases mem_cons.mp member with rfl | later
      · exact ⟨rfl, first, firstMember, by simp, rfl⟩
      · obtain ⟨forbids, ability, abilityMember, listed, attached⟩ := sound row later
        exact ⟨forbids, ability, abilityMember, by simp [listed], attached⟩
    · intro ability abilityMember listed
      rcases mem_cons.mp listed with same | later
      · have sameAbility := eq_of_key_eq store.abilities_nodup abilityMember firstMember same
        exact ⟨attachedFirst, by simp, congrArg some sameAbility.symm⟩
      · obtain ⟨row, rowMember, attached⟩ := complete ability abilityMember later
        exact ⟨row, by simp [rowMember], attached⟩

private theorem permissionRows_insertPermissions_of_ne
    (known : ∀ id ∈ abilityIDs, id ≤ store.nextAbilityID)
    (other : ¬(entityID = user ∧ entityType = userType)) :
    (store.insertPermissions user userType forbidden abilityIDs
        known).permissionRows entityID entityType = store.permissionRows entityID entityType := by
  induction abilityIDs generalizing store with
  | nil => rfl
  | cons abilityID rest ih =>
    exact (ih _).trans (permissionRows_insertPermission_of_ne (known abilityID (by simp)) other)

def ExtendedBy (names : List AbilityName) (entityID : Nat) (entityType : EntityType)
    (forbidden : Bool) (before after : List Permission) : Prop :=
  ∃ added, after = before ++ added ∧
    (∀ row ∈ added,
      row.forbidden = forbidden ∧ isExactly names entityID entityType row = true) ∧
    ∀ name ∈ names, ∃ row ∈ added, row.isNamed name = true

theorem permissionRows_applyAbilities :
    ExtendedBy names entityID entityType forbidden (store.permissionRows user userType)
      ((store.applyAbilities user userType (abilitiesForEntity names entityID entityType)
        forbidden).permissionRows user userType) := by
  by_cases noNames : names = []
  · subst noNames
    exact ⟨[], (append_nil _).symm, by simp, by simp⟩
  · obtain ⟨first, rest, split⟩ := exists_cons_of_ne_nil noNames
    have grown := store.saveAbilities_grown (abilitiesForEntity names entityID entityType)
    obtain ⟨added, rows, sound, complete⟩ :=
      permissionRows_insertPermissions
        ((store.saveAbilities _).findAbilityIDs_le (abilitiesForEntity names entityID entityType))
        fun id member => by
          obtain ⟨existing, existingMember, same, _⟩ :=
            (mem_findAbilityIDs _ _ id).mp member
          exact ⟨existing, existingMember, same⟩
    refine ⟨added, ?_, ?_, ?_⟩
    · rw [← grown.permissionRows, ← rows, split]
      rfl
    · intro row member
      obtain ⟨forbids, ability, abilityMember, listed, attached⟩ := sound row member
      obtain ⟨existing, existingMember, same, input, inputMember, sameKey⟩ :=
        (mem_findAbilityIDs _ _ _).mp listed
      obtain ⟨name, named, rfl⟩ := mem_map.mp inputMember
      rw [eq_of_key_eq (abilities_nodup _) existingMember abilityMember same] at sameKey
      exact ⟨forbids, isExactly_iff.mpr ⟨ability, attached, name, named, sameKey⟩⟩
    · intro name named
      obtain ⟨existing, existingMember, sameKey⟩ := exists_key_saveAbilities named
      have listed := (mem_findAbilityIDs _ (abilitiesForEntity names entityID entityType)
        existing.id).mpr ⟨existing, existingMember, rfl, _, mem_map_of_mem named, sameKey⟩
      obtain ⟨row, member, attached⟩ := complete existing existingMember listed
      have sameName : existing.name = name := congrArg AbilityKey.name sameKey
      exact ⟨row, member, by simp [Permission.isNamed, attached, sameName]⟩

theorem permissionRows_applyAbilities_of_ne {abilities : List Ability}
    (other : ¬(entityID = user ∧ entityType = userType)) :
    (store.applyAbilities user userType abilities forbidden).permissionRows entityID entityType =
      store.permissionRows entityID entityType := by
  cases abilities with
  | nil => rfl
  | cons first rest =>
    exact (permissionRows_insertPermissions_of_ne _ other).trans
      (store.saveAbilities_grown (first :: rest)).permissionRows

theorem roleRows_applyAbilities {abilities : List Ability} :
    (store.applyAbilities user userType abilities forbidden).roleRows entityID entityType =
      store.roleRows entityID entityType := by
  cases abilities with
  | nil => rfl
  | cons first rest =>
    have grown := store.saveAbilities_grown (first :: rest)
    refine (roleRows_insertPermissions _).trans ?_
    simp only [roleRows, grown.roles, grown.assignedRoles]

theorem roleRows_clearRolesForEntity_of_ne (other : ¬(entityID = user ∧ entityType = userType)) :
    (store.clearRolesForEntity user userType).roleRows entityID entityType =
      store.roleRows entityID entityType := by
  simp only [roleRows, clearRolesForEntity, filter_filter]
  congr 1
  apply filter_congr
  intro assigned _
  cases owned : assigned.entityID == entityID && assigned.entityType == entityType with
  | false => simp
  | true =>
    simp only [Bool.and_eq_true, beq_iff_eq] at owned
    simp [owned, Classical.not_and_iff_not_or_not.mp other]

private theorem insertAssignment_assignedRoles (store : RBACRepository driver) (user : Nat)
    (userType : EntityType) (role : RestrictedRole) :
    (store.insertAssignment user userType role).assignedRoles = store.assignedRoles ++
        [{ id := store.nextAssignedID + 1, roleID := role.id, entityID := user,
           entityType := userType, restrictedToID := role.restrictedToID,
           restrictedToType := role.restrictedToType, scope := role.scope }] := by
  apply assign_of_fresh
  intro existing member
  exact Nat.ne_of_lt (Nat.lt_succ_of_le (store.assignedRoles_le existing member))

private theorem rows_assignRole (role : RestrictedRole) :
    (assignRole user userType store role).permissionRows entityID entityType =
        store.permissionRows entityID entityType ∧
      (¬(entityID = user ∧ entityType = userType) →
        (assignRole user userType store role).roleRows entityID entityType =
          store.roleRows entityID entityType) := by
  have inserted :
      (store.insertAssignment user userType role).permissionRows entityID entityType =
          store.permissionRows entityID entityType ∧
        (¬(entityID = user ∧ entityType = userType) →
          (store.insertAssignment user userType role).roleRows entityID entityType =
            store.roleRows entityID entityType) := by
    refine ⟨rfl, fun other => ?_⟩
    have elsewhere : (user == entityID && userType == entityType) = false := by
      simpa using fun sameID sameType => other ⟨sameID.symm, sameType.symm⟩
    rw [roleRows, insertAssignment_assignedRoles, filter_append,
      filter_cons_of_neg (by simp [elsewhere]), filter_nil, append_nil]
    rfl
  cases driver with
  | sql => exact inserted
  | inMemory =>
    simp only [assignRole]
    split
    · exact ⟨rfl, fun _ => rfl⟩
    · exact inserted

theorem rows_assignRolesForEntity {roles : List RestrictedRole} :
    (store.assignRolesForEntity user userType roles).permissionRows entityID entityType =
        store.permissionRows entityID entityType ∧
      (¬(entityID = user ∧ entityType = userType) →
        (store.assignRolesForEntity user userType roles).roleRows entityID entityType =
          store.roleRows entityID entityType) := by
  induction roles generalizing store with
  | nil => exact ⟨rfl, fun _ => rfl⟩
  | cons role rest ih =>
    obtain ⟨headRows, headRoles⟩ := rows_assignRole role
    exact ⟨ih.1.trans headRows, fun other => (ih.2 other).trans (headRoles other)⟩

end RBACRepository

end ShadowPanel.Repositories
