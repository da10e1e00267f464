import ShadowPanel.Rbac.Transitions

namespace ShadowPanel.Rbac

open Data Domain Repositories

/-! Grants and revocations against the answers that follow them. -/

def Read.undisturbed (order : RowOrder) : Read where
  wait := 0
  delay := 0
  order := order
  fails := fun _ => false

def Attempt.undisturbed (order : RowOrder) : Attempt where
  fails := fun _ => false
  roleOrder := .kept
  checks := fun _ => .undisturbed order
  commits := true

theorem Read.steady_undisturbed (order : RowOrder) : (Read.undisturbed order).Steady := fun _ => rfl

def storedOrder : RowOrder := ⟨.kept, .kept, fun _ => .kept⟩

namespace RBAC

section

variable (rbac : RBAC driver) (userID entityID : Nat) (entityType : EntityType)
  (names : List AbilityName)

private theorem collectForbidAbilities_of_steady (steady : ∀ check, (checks check).Steady)
    (abilities : List Ability) (index : Nat) (rbac : RBAC driver) :
    ∃ forbidAbilities checked,
      collectForbidAbilities userID entityID entityType checks abilities index rbac =
        (.ok forbidAbilities, checked) := by
  induction abilities generalizing index rbac with
  | nil => exact ⟨[], rbac, rfl⟩
  | cons ability rest ih =>
    obtain ⟨can, after, answered⟩ := rbac.exists_answer_of_steady userID entityType
      entityID [ability.name] (steady index)
    obtain ⟨forbidRest, checked, collected⟩ := ih (index + 1) after
    refine ⟨if can then ability :: forbidRest else forbidRest, checked, ?_⟩
    simp only [collectForbidAbilities, answered, collected]

variable (order : RowOrder)

private theorem revokeOrForbid_undisturbed : ∃ after forbidNames,
    rbac.revokeOrForbidUserAbilitiesForEntity userID entityID entityType names
        (.undisturbed order) = (.ok (), after) ∧
      rbac.Revoked userID entityID entityType names
        (· = permissionsOf (rbac.revokedRepo userID entityID entityType names)
          userID order) forbidNames after := by
  rcases revokeOrForbid_cases (.undisturbed order)
      (· = permissionsOf (rbac.revokedRepo userID entityID entityType names) userID order)
      (fun _ => rfl) with done | ⟨after, failure, failed, _⟩
  · exact done
  · exfalso
    obtain ⟨forbidAbilities, checked, collected⟩ :=
      collectForbidAbilities_of_steady userID entityID entityType
        (fun _ => Read.steady_undisturbed order)
        (abilitiesForEntity names entityID entityType) 0
        (rbac.checkedState userID entityID entityType names)
    have done : (revokeOrForbidInTransaction userID entityID entityType
        (abilitiesForEntity names entityID entityType) (.undisturbed order) rbac).1 = .ok () := by
      rw [revokeOrForbidInTransaction_eq _ rfl,
        show (Attempt.undisturbed order).checks = fun _ => .undisturbed order from rfl,
        collected]
      cases forbidAbilities with
      | nil => rfl
      | cons head rest =>
        rw [forbidCollected, write_of_not_fails _ _ _ rfl]
        simp
    unfold revokeOrForbidUserAbilitiesForEntity transaction at failed
    split at failed
    · rename_i body
      rw [body] at done
      contradiction
    · simp [Attempt.undisturbed] at failed

end

section

variable (rbac : RBAC driver) (userID entityID : Nat) (entityType : EntityType)
  (names : List AbilityName)

def inheritedRows : List Permission := (layersFor rbac.repo userID).second

variable {rbac userID entityID entityType names}

theorem canAnswer_revokedRepo (name : AbilityName) (otherType : EntityType) (otherID : Nat)
    (answer : Bool) :
    CanAnswer (layersFor (rbac.revokedRepo userID entityID entityType names) userID)
        name otherType otherID answer ↔
      CanAnswer { layersFor rbac.repo userID with
        first := keptRows rbac.repo userID names entityID entityType }
        name otherType otherID answer := by
  rw [revokedRepo, layersFor_revoke]

section

variable (revoked : rbac.Revoked userID entityID entityType names
    (rbac.Loaded userID entityID entityType names) forbidNames after)

include revoked

theorem Revoked.canAnswer (listed : name ∈ names) : CanAnswer { layersFor rbac.repo userID with
      first := keptRows rbac.repo userID names entityID entityType }
    name entityType entityID (decide (name ∈ forbidNames)) := by
  obtain ⟨permissions, ⟨order, rfl⟩, answered⟩ := revoked.answers name listed
  rw [← canAnswer_revokedRepo, ← exists_order_decideEach_iff]
  exact ⟨order, answered⟩

theorem Revoked.current : after.Current userID := by
  intro permissions found
  obtain ⟨_, load, repo⟩ := revoked.entry permissions found
  rw [repo]
  exact load

theorem Revoked.mayAnswer_true_iff (name : AbilityName) :
    after.MayAnswer userID entityType entityID name true ↔
      HasAllow name entityType entityID (keptRows rbac.repo userID names entityID entityType) ∨
        ¬(HasForbid name (keptRows rbac.repo userID names entityID entityType) ∨
            name ∈ forbidNames) ∧
          HasAllow name entityType entityID (rbac.inheritedRows userID) := by
  rw [mayAnswer_iff_of_current revoked.current, revoked.layers, CanAnswer,
    hasAllow_of_extendedBy_forbid revoked.rows, hasForbid_of_extendedBy_forbid revoked.rows]
  rfl

end

private theorem exists_revoked_mayAnswer (listed : name ∈ names)
    (grantable : HasAllow name entityType entityID
      (keptRows rbac.repo userID names entityID entityType) ∨
      ¬HasForbid name (keptRows rbac.repo userID names entityID entityType) ∧
      HasAllow name entityType entityID (rbac.inheritedRows userID) ∧
      HasForbid name (rbac.inheritedRows userID)) :
    ∃ attempt after,
      rbac.revokeOrForbidUserAbilitiesForEntity userID entityID entityType names
        attempt = (.ok (), after) ∧
      after.MayAnswer userID entityType entityID name true := by
  by_cases own : HasAllow name entityType entityID
    (keptRows rbac.repo userID names entityID entityType)
  · obtain ⟨after, forbidNames, done, revoked⟩ :=
      rbac.revokeOrForbid_undisturbed userID entityID entityType names storedOrder
    refine ⟨_, after, done, ?_⟩
    rw [(revoked.loaded fun _ load => ⟨_, load⟩).mayAnswer_true_iff]
    exact .inl own
  · obtain ⟨notForbidden, inherited, inheritedForbid⟩ := grantable.resolve_left own
    have refusable : CanAnswer
        (layersFor (rbac.revokedRepo userID entityID entityType names) userID)
        name entityType entityID false := by
      rw [canAnswer_revokedRepo]
      exact .inr ⟨own, .inl inheritedForbid⟩
    obtain ⟨order, refused⟩ := (exists_order_decideEach_iff _ false).mpr refusable
    obtain ⟨after, forbidNames, done, revoked⟩ :=
      rbac.revokeOrForbid_undisturbed userID entityID entityType names order
    refine ⟨_, after, done, ?_⟩
    rw [(revoked.loaded fun _ load => ⟨_, load⟩).mayAnswer_true_iff]
    refine .inr ⟨?_, inherited⟩
    rintro (kept | collected)
    · exact notForbidden kept
    · obtain ⟨permissions, load, answered⟩ := revoked.answers name listed
      rw [load, permissionsOf, refused] at answered
      simp [collected] at answered

private theorem grantable_of_mayAnswer
    (done : rbac.revokeOrForbidUserAbilitiesForEntity userID entityID entityType names attempt =
      (.ok (), after)) (listed : name ∈ names)
    (granted : after.MayAnswer userID entityType entityID name true) :
    HasAllow name entityType entityID (keptRows rbac.repo userID names entityID entityType) ∨
      ¬HasForbid name (keptRows rbac.repo userID names entityID entityType) ∧
        HasAllow name entityType entityID (rbac.inheritedRows userID) ∧
        HasForbid name (rbac.inheritedRows userID) := by
  obtain ⟨forbidNames, revoked⟩ := revoked_of_ok done
  rw [revoked.mayAnswer_true_iff] at granted
  rcases granted with own | ⟨shown, inherited⟩
  · exact .inl own
  obtain ⟨notForbidden, notCollected⟩ := not_or.mp shown
  have checked := revoked.canAnswer listed
  rw [decide_eq_false notCollected] at checked
  rcases checked with kept | ⟨_, forbidden | absent⟩
  · exact absurd kept notForbidden
  · exact .inr ⟨notForbidden, inherited, forbidden⟩
  · exact absurd inherited absent

variable (rbac userID entityID entityType names)

/-- A revocation holds in every order of rows exactly when none of the user's
remaining rows allows the name on the entity and the inherited rows, unless a
remaining Forbidden row of the user hides them, do not both allow and forbid. -/
theorem revokeOrForbid_refuses_iff : (∀ attempt after,
      rbac.revokeOrForbidUserAbilitiesForEntity userID entityID entityType names
        attempt = (.ok (), after) → ∀ name ∈ names, ∀ read : Read, read.Steady →
        (after.canForEntity userID entityType entityID [name] read).1 = .ok false) ↔
    ∀ name ∈ names, ¬HasAllow name entityType entityID
          (keptRows rbac.repo userID names entityID entityType) ∧
        (HasForbid name (keptRows rbac.repo userID names entityID entityType) ∨
          ¬HasAllow name entityType entityID (rbac.inheritedRows userID) ∨
          ¬HasForbid name (rbac.inheritedRows userID)) := by
  simp only [steady_answers_iff]
  constructor
  · intro refuses name listed
    have notGrantable := fun grantable =>
      let ⟨attempt, after, done, granted⟩ := exists_revoked_mayAnswer listed grantable
      refuses attempt after done name listed granted
    refine ⟨fun own => notGrantable (.inl own), ?_⟩
    by_cases hidden : HasForbid name (keptRows rbac.repo userID names entityID entityType)
    · exact .inl hidden
    by_cases inherited : HasAllow name entityType entityID (rbac.inheritedRows userID)
    · exact .inr (.inr fun forbidden => notGrantable (.inr ⟨hidden, inherited, forbidden⟩))
    · exact .inr (.inl inherited)
  · intro settled attempt after done name listed granted
    obtain ⟨noAllow, rest⟩ := settled name listed
    rcases grantable_of_mayAnswer done listed granted with
      own | ⟨hidden, inherited, forbidden⟩
    · exact noAllow own
    · rcases rest with kept | absent | absent
      · exact hidden kept
      · exact absent inherited
      · exact absent forbidden

def globalGrant : RBAC .inMemory where
  repo :=
    .ofRows [] [] [⟨1, "game-server-start", none, none, none, false, none, none⟩]
      [⟨1, 1, some 7, some .user, false, none, none⟩] (by decide)
  cache := .new 0
  now := 0

theorem revokeOrForbid_globalGrant_allowed : ∃ attempt after,
    globalGrant.revokeOrForbidUserAbilitiesForEntity 7 5 .server
      ["game-server-start"] attempt = (.ok (), after) ∧
    (after.canForEntity 7 .server 5 ["game-server-start"]
      (.undisturbed storedOrder)).1 = .ok true :=
  ⟨.undisturbed storedOrder, _, rfl, rfl⟩

end

section

variable {rbac : RBAC driver} {userID entityID : Nat} {entityType : EntityType}
  {names : List AbilityName}

private theorem granted_eq_of_ok
    (done : rbac.allowUserAbilitiesForEntity userID entityID entityType names attempt =
      (.ok (), after)) : after = rbac.granted userID entityID entityType names := by
  rcases rbac.allowUserAbilitiesForEntity_cases userID entityID entityType names
      attempt with result | ⟨failure, result | result⟩ <;> rw [done] at result <;>
    cases result
  rfl

private theorem granted_current : (rbac.granted userID entityID entityType names).Current userID :=
  holds_forget _ { rbac with repo := rbac.allowedRepo userID entityID entityType names }
    userID

theorem granted_rows : RBACRepository.ExtendedBy names entityID entityType false
    (keptRows rbac.repo userID names entityID entityType)
    ((rbac.granted userID entityID entityType names).repo.permissionRows userID .user) :=
  extendedBy_revoke_apply names false

theorem granted_layers : layersFor (rbac.granted userID entityID entityType names).repo userID =
    { layersFor rbac.repo userID with
      first := (rbac.granted userID entityID entityType names).repo.permissionRows
        userID .user } :=
  (layersFor_revoke_apply _ false).1

theorem granted_otherLayers (different : other ≠ userID) :
    layersFor (rbac.granted userID entityID entityType names).repo other =
      layersFor rbac.repo other :=
  (layersFor_revoke_apply _ false).2 other different

private theorem granted_inheritedRows :
    (rbac.granted userID entityID entityType names).inheritedRows userID =
      rbac.inheritedRows userID := by
  rw [inheritedRows, granted_layers]
  rfl

def HasForbidOn (name : AbilityName) (entityType : EntityType) (entityID : Nat)
    (rows : List Permission) : Prop :=
  ∃ row ∈ rows, isForbid name row = true ∧
    row.ability.any (appliesTo entityType entityID) = true

private theorem granted_hasForbidOn_iff (name : AbilityName) : HasForbidOn name entityType entityID
      ((rbac.granted userID entityID entityType names).repo.permissionRows userID .user) ↔
    HasForbidOn name entityType entityID (keptRows rbac.repo userID names entityID entityType) := by
  refine exists_extended_iff granted_rows ?_
  rintro row allowed _ ⟨forbids, _⟩
  simp [isForbid, allowed] at forbids

private theorem granted_mayAnswer_false_iff (listed : name ∈ names) :
    (rbac.granted userID entityID entityType names).MayAnswer userID entityType entityID name
        false ↔
      HasForbid name (keptRows rbac.repo userID names entityID entityType) := by
  rw [mayAnswer_iff_of_current granted_current,
    granted_layers, CanAnswer, hasForbid_of_extendedBy_allow granted_rows]
  refine or_iff_left ?_
  rintro ⟨notAllowed, _⟩
  exact notAllowed (hasAllow_of_extendedBy_allow granted_rows listed)

variable (rbac userID entityID entityType names) in
/-- A grant reaches every name without an applicable Forbidden row exactly when
no Forbidden row of the user for another entity stands alone. -/
theorem allow_grants_iff : (∀ attempt after,
      rbac.allowUserAbilitiesForEntity userID entityID entityType names attempt = (.ok (), after) →
      ∀ name ∈ names, ¬HasForbidOn name entityType entityID
          (after.repo.permissionRows userID .user) →
        ¬HasForbidOn name entityType entityID (after.inheritedRows userID) →
        ∀ read : Read, read.Steady →
          (after.canForEntity userID entityType entityID [name] read).1 = .ok true) ↔
    ∀ name ∈ names, HasForbidOn name entityType entityID
          (keptRows rbac.repo userID names entityID entityType) ∨
        HasForbidOn name entityType entityID (rbac.inheritedRows userID) ∨
        ¬HasForbid name (keptRows rbac.repo userID names entityID entityType) := by
  simp only [steady_answers_iff, Bool.not_true]
  constructor
  · intro grants name listed
    by_cases own : HasForbidOn name entityType entityID
      (keptRows rbac.repo userID names entityID entityType)
    · exact .inl own
    by_cases inherited : HasForbidOn name entityType entityID (rbac.inheritedRows userID)
    · exact .inr (.inl inherited)
    refine .inr (.inr ?_)
    rw [← granted_mayAnswer_false_iff listed]
    refine grants (.undisturbed storedOrder) _
      (rbac.allowUserAbilitiesForEntity_of_steady userID entityID entityType names
        _ (fun _ => rfl) rfl) name listed ?_ ?_
    · rw [granted_hasForbidOn_iff]
      exact own
    · rw [granted_inheritedRows]
      exact inherited
  · intro settled attempt after done name listed noOwn noInherited
    rw [granted_eq_of_ok done] at noOwn noInherited ⊢
    rw [granted_hasForbidOn_iff] at noOwn
    rw [granted_inheritedRows] at noInherited
    rw [granted_mayAnswer_false_iff listed]
    exact ((settled name listed).resolve_left noOwn).resolve_left noInherited

def otherServerForbidden : RBAC .inMemory where
  repo :=
    .ofRows [] [] [⟨1, "game-server-start", none, some 9, some .server, false, none, none⟩]
      [⟨1, 1, some 7, some .user, true, none, none⟩] (by decide)
  cache := .new 0
  now := 0

theorem allow_otherServerForbidden_refused : ∃ attempt after,
    otherServerForbidden.allowUserAbilitiesForEntity 7 5 .server
      ["game-server-start"] attempt = (.ok (), after) ∧
    ¬HasForbidOn "game-server-start" .server 5 (after.repo.permissionRows 7 .user) ∧
    ¬HasForbidOn "game-server-start" .server 5 (after.inheritedRows 7) ∧
    (after.canForEntity 7 .server 5 ["game-server-start"]
      (.undisturbed storedOrder)).1 = .ok false := by
  refine ⟨.undisturbed storedOrder, _, rfl, ?_, ?_, rfl⟩
  · unfold HasForbidOn
    decide
  · unfold HasForbidOn
    decide

end

end RBAC

end ShadowPanel.Rbac
