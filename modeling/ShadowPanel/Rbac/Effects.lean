import ShadowPanel.Rbac.Answers

namespace ShadowPanel.Rbac

open Data Domain Repositories List

/-! What the mutations do to the rows that a decision reads. -/

def keptRows (repo : RBACRepository driver) (userID : Nat) (names : List AbilityName)
    (entityID : Nat) (entityType : EntityType) : List Permission :=
  (repo.permissionRows userID .user).filter fun permission =>
    !isExactly names entityID entityType permission

open RBACRepository

section

variable (repo : RBACRepository driver) (userID : Nat) (names : List AbilityName)
  (entityID : Nat) (entityType : EntityType)

theorem layersFor_congr (repo : RBACRepository driver) {after : RBACRepository driver}
    (inherited : ∀ roleID, after.permissionRows roleID .role = repo.permissionRows roleID .role)
    (roles : after.roleRows userID .user = repo.roleRows userID .user) :
    layersFor after userID =
      { layersFor repo userID with first := after.permissionRows userID .user } := by
  simp only [layersFor, inherited, roles]

theorem user_ne_role : ¬(owner = userID ∧ EntityType.role = EntityType.user) := by
  rintro ⟨_, same⟩
  exact absurd same (by decide)

theorem layersFor_revoke :
    layersFor (repo.revoke userID .user (abilitiesForEntity names entityID entityType)) userID =
      { layersFor repo userID with first := keptRows repo userID names entityID entityType } := by
  rw [layersFor_congr userID _ (fun _ => permissionRows_revoke_of_ne (user_ne_role userID)) rfl,
    permissionRows_revoke]
  rfl

theorem layersFor_applyAbilities (abilities : List Ability) (forbidden : Bool) :
    layersFor (repo.applyAbilities userID .user abilities forbidden) userID =
      { layersFor repo userID with first := (repo.applyAbilities userID .user abilities
          forbidden).permissionRows userID .user } :=
  layersFor_congr userID _ (fun _ => permissionRows_applyAbilities_of_ne (user_ne_role userID))
    roleRows_applyAbilities

theorem layersFor_revoke_of_ne (different : other ≠ userID) (abilities : List Ability) :
    layersFor (repo.revoke userID .user abilities) other = layersFor repo other := by
  rw [layersFor_congr other _ (fun _ => permissionRows_revoke_of_ne (user_ne_role userID)) rfl,
    permissionRows_revoke_of_ne (fun same => different same.1)]
  rfl

theorem layersFor_applyAbilities_of_ne (different : other ≠ userID) (abilities : List Ability)
    (forbidden : Bool) :
    layersFor (repo.applyAbilities userID .user abilities forbidden) other =
      layersFor repo other := by
  rw [layersFor_congr other _
      (fun _ => permissionRows_applyAbilities_of_ne (user_ne_role userID)) roleRows_applyAbilities,
    permissionRows_applyAbilities_of_ne (fun same => different same.1)]
  rfl

variable {repo userID names entityID entityType}

theorem layersFor_revoke_apply (written : List Ability) (forbidden : Bool) :
    let after := (repo.revoke userID .user
      (abilitiesForEntity names entityID entityType)).applyAbilities userID .user written forbidden
    layersFor after userID =
        { layersFor repo userID with first := after.permissionRows userID .user } ∧
      ∀ other ≠ userID, layersFor after other = layersFor repo other := by
  refine ⟨?_, fun other different => ?_⟩
  · rw [layersFor_applyAbilities, layersFor_revoke]
  · rw [layersFor_applyAbilities_of_ne _ _ different, layersFor_revoke_of_ne _ _ different]

theorem extendedBy_revoke_apply (writtenNames : List AbilityName) (forbidden : Bool) :
    ExtendedBy writtenNames entityID entityType forbidden
      (keptRows repo userID names entityID entityType)
      (((repo.revoke userID .user (abilitiesForEntity names entityID entityType)).applyAbilities
        userID .user (abilitiesForEntity writtenNames entityID entityType)
        forbidden).permissionRows userID .user) := by
  rw [keptRows, ← permissionRows_revoke]
  exact permissionRows_applyAbilities

end

section

variable {entityType : EntityType}

theorem isNamed_of_isExactly (onEntity : isExactly names entityID entityType permission = true)
    (named : permission.isNamed name = true) : name ∈ names := by
  obtain ⟨ability, attached, listed, member, sameKey⟩ := isExactly_iff.mp onEntity
  have sameName : ability.name = listed := congrArg AbilityKey.name sameKey
  have nameEq : ability.name = name := by
    simpa [Permission.isNamed, attached] using named
  rw [← nameEq, sameName]
  exact member

theorem isAllow_of_isExactly_of_ne (different : ¬(otherType = entityType ∧ otherID = entityID))
    (onEntity : isExactly names entityID entityType permission = true) :
    isAllow name otherType otherID permission = false := by
  obtain ⟨ability, attached, listed, _, sameKey⟩ := isExactly_iff.mp onEntity
  simp only [abilityKey, exactKey, AbilityKey.mk.injEq] at sameKey
  obtain ⟨_, sameID, sameType, _⟩ := sameKey
  have elsewhere : appliesTo otherType otherID ability = false := by
    simpa [appliesTo, sameID, sameType] using fun typeEq idEq => different ⟨typeEq.symm, idEq.symm⟩
  simp [isAllow, attached, elsewhere]

theorem not_isAllow_of_isExactly
    (elsewhere : ¬(otherType = entityType ∧ otherID = entityID) ∨ name ∉ names)
    (onEntity : isExactly names entityID entityType permission = true) :
    ¬isAllow name otherType otherID permission = true := by
  intro allows
  rcases elsewhere with different | notNamed
  · rw [isAllow_of_isExactly_of_ne different onEntity] at allows
    contradiction
  · simp only [isAllow, Bool.and_eq_true] at allows
    exact notNamed (isNamed_of_isExactly onEntity allows.1.1)

theorem isAllow_of_isExactly (onEntity : isExactly names entityID entityType permission = true)
    (permits : permission.forbidden = false) (named : permission.isNamed name = true) :
    isAllow name entityType entityID permission = true := by
  obtain ⟨ability, attached, listed, _, sameKey⟩ := isExactly_iff.mp onEntity
  simp only [abilityKey, exactKey, AbilityKey.mk.injEq] at sameKey
  obtain ⟨_, sameID, sameType, _⟩ := sameKey
  simp [isAllow, named, permits, attached, appliesTo, sameID, sameType]

end

section

variable {entityType : EntityType}

@[simp] theorem mem_keptRows : row ∈ keptRows repo userID names entityID entityType ↔
    row ∈ repo.permissionRows userID .user ∧ isExactly names entityID entityType row = false := by
  simp [keptRows]

theorem hasForbid_of_kept (kept : HasForbid name (keptRows repo userID names entityID entityType)) :
    HasForbid name (repo.permissionRows userID .user) := by
  obtain ⟨row, member, forbids⟩ := kept
  exact ⟨row, (mem_keptRows.mp member).1, forbids⟩

theorem exists_kept_iff {shows : Permission → Prop}
    (spared : ∀ row, shows row → ¬isExactly names entityID entityType row = true) :
    (∃ row ∈ keptRows repo userID names entityID entityType, shows row) ↔
      ∃ row ∈ repo.permissionRows userID .user, shows row := by
  simp only [mem_keptRows]
  constructor
  · rintro ⟨row, ⟨member, _⟩, shown⟩
    exact ⟨row, member, shown⟩
  · rintro ⟨row, member, shown⟩
    exact ⟨row, ⟨member, Bool.eq_false_iff.mpr (spared row shown)⟩, shown⟩

theorem hasAllow_kept_iff
    (elsewhere : ¬(otherType = entityType ∧ otherID = entityID) ∨ name ∉ names) :
    HasAllow name otherType otherID (keptRows repo userID names entityID entityType) ↔
      HasAllow name otherType otherID (repo.permissionRows userID .user) :=
  exists_kept_iff fun _ allows onEntity => not_isAllow_of_isExactly elsewhere onEntity allows

end

section

variable {entityType : EntityType} {after : List Permission}

theorem exists_extended_iff {shows : Permission → Prop}
    (extended : ExtendedBy names entityID entityType forbidden before after)
    (hidden : ∀ row, row.forbidden = forbidden → isExactly names entityID entityType row = true →
      ¬shows row) :
    (∃ row ∈ after, shows row) ↔ ∃ row ∈ before, shows row := by
  obtain ⟨added, rfl, sound, _⟩ := extended
  constructor
  · rintro ⟨row, member, shown⟩
    rcases mem_append.mp member with old | new
    · exact ⟨row, old, shown⟩
    · exact absurd shown (hidden row (sound row new).1 (sound row new).2)
  · rintro ⟨row, member, shown⟩
    exact ⟨row, mem_append_left _ member, shown⟩

theorem hasForbid_of_extendedBy_forbid
    (extended : ExtendedBy names entityID entityType true before after) :
    HasForbid name after ↔ HasForbid name before ∨ name ∈ names := by
  obtain ⟨added, rfl, sound, complete⟩ := extended
  constructor
  · rintro ⟨row, member, forbids⟩
    rcases mem_append.mp member with old | new
    · exact .inl ⟨row, old, forbids⟩
    · exact .inr (isNamed_of_isExactly (sound row new).2 (isNamed_of_isForbid forbids))
  · rintro (⟨row, member, forbids⟩ | listed)
    · exact ⟨row, mem_append_left _ member, forbids⟩
    · obtain ⟨row, member, named⟩ := complete name listed
      exact ⟨row, mem_append_right _ member, by
        simp [isForbid, named, (sound row member).1]⟩

theorem hasAllow_of_extendedBy_forbid
    (extended : ExtendedBy names entityID entityType true before after) (otherType : EntityType)
    (otherID : Nat) :
    HasAllow name otherType otherID after ↔ HasAllow name otherType otherID before :=
  exists_extended_iff extended fun row forbidden _ => by simp [isAllow, forbidden]

variable (extended : ExtendedBy names entityID entityType false before after)

include extended

theorem hasForbid_of_extendedBy_allow : HasForbid name after ↔ HasForbid name before :=
  exists_extended_iff extended fun row allowed _ => by simp [isForbid, allowed]

theorem hasAllow_of_extendedBy_allow (listed : name ∈ names) :
    HasAllow name entityType entityID after := by
  obtain ⟨added, rfl, sound, complete⟩ := extended
  obtain ⟨row, member, named⟩ := complete name listed
  exact ⟨row, mem_append_right _ member,
    isAllow_of_isExactly (sound row member).2 (sound row member).1 named⟩

theorem hasAllow_of_extendedBy_allow_iff
    (elsewhere : ¬(otherType = entityType ∧ otherID = entityID) ∨ name ∉ names) :
    HasAllow name otherType otherID after ↔ HasAllow name otherType otherID before :=
  exists_extended_iff extended fun _ _ => not_isAllow_of_isExactly elsewhere

end

end ShadowPanel.Rbac
