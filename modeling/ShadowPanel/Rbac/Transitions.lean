import ShadowPanel.Rbac.Effects

namespace ShadowPanel.Rbac

open Data Domain Repositories PermissionCache

/-! What each call of the service can do to its state. -/

namespace RBAC

def Holds (maps : PermissionMap → Prop) (rbac : RBAC driver) (userID : Nat) : Prop :=
  ∀ permissions, rbac.cache.get (userKey userID) rbac.now = some permissions → maps permissions

theorem userKey_ne (different : other ≠ userID) :
    userKey other ≠ userKey userID := by
  intro same
  exact different (congrArg CacheKey.entityID same)

theorem holds_forget (maps : PermissionMap → Prop) (rbac : RBAC driver) (userID : Nat) :
    Holds maps (rbac.forget userID) userID := by
  intro permissions found
  simp [show (rbac.forget userID).cache = rbac.cache.delete (userKey userID) from rfl] at found

def Bounded (rbac : RBAC driver) : Prop :=
  ∀ key entry, rbac.cache.cache key = some entry → entry.expiresAt ≤ rbac.now + rbac.cache.ttl

/-- Queries about the user move the clock and may fill the user's entry with
one of `maps`. -/
structure Observed (maps : PermissionMap → Prop) (userID : Nat) (before after : RBAC driver) :
    Prop where
  repo : after.repo = before.repo
  ttl : after.cache.ttl = before.cache.ttl
  now : before.now ≤ after.now
  others : ∀ other ≠ userID,
    after.cache.cache (userKey other) = before.cache.cache (userKey other)
  entry : ∀ permissions,
    after.cache.get (userKey userID) after.now = some permissions →
    before.cache.get (userKey userID) before.now = some permissions ∨
      0 < before.cache.ttl ∧ maps permissions
  bounded : before.Bounded → after.Bounded

namespace Observed

variable {maps : PermissionMap → Prop}

theorem refl (rbac : RBAC driver) : Observed maps userID rbac rbac :=
  ⟨rfl, rfl, Int.le_refl _, fun _ _ => rfl, fun _ found => .inl found, id⟩

theorem trans (left : Observed maps userID first second)
    (right : Observed maps userID second third) : Observed maps userID first third where
  repo := right.repo.trans left.repo
  ttl := right.ttl.trans left.ttl
  now := Int.le_trans left.now right.now
  others := fun other different =>
    (right.others other different).trans (left.others other different)
  entry := by
    intro permissions found
    rcases right.entry permissions found with earlier | ⟨ttl, filled⟩
    · exact left.entry permissions earlier
    · exact .inr ⟨left.ttl ▸ ttl, filled⟩
  bounded := right.bounded ∘ left.bounded

theorem holds (observed : Observed maps userID first second) (held : Holds maps first userID) :
    Holds maps second userID := by
  intro permissions found
  rcases observed.entry permissions found with earlier | ⟨_, filled⟩
  · exact held permissions earlier
  · exact filled

end Observed

theorem observed_wait (rbac : RBAC driver) (userID : Nat) (duration : Nat) :
    Observed maps userID rbac { rbac with now := rbac.now + duration } where
  repo := rfl
  ttl := rfl
  now := Int.le_add_of_nonneg_right (Int.natCast_nonneg _)
  others := fun _ _ => rfl
  entry := by
    intro permissions found
    exact .inl (get_earlier (by simp only; omega) found)
  bounded := by
    intro bounded key entry present
    have limit := bounded key entry present
    simp only
    omega

section

variable {maps : PermissionMap → Prop} (rbac : RBAC driver) (userID : Nat) (read : Read)

theorem getAllPermissionsForUser_observed
    (load : maps (permissionsOf rbac.repo userID read.order)) :
    Observed maps userID rbac (rbac.getAllPermissionsForUser userID read).2 := by
  rcases rbac.getAllPermissionsForUser_cases userID read with
    ⟨permissions, _, passed⟩ | ⟨_, passed⟩ | ⟨_, failure, passed⟩ <;> rw [passed]
  · exact observed_wait rbac userID read.wait
  · refine ⟨rfl, ttl_set _ _ _ _, ?_, ?_, ?_, ?_⟩
    · simp only
      omega
    · intro other different
      unfold PermissionCache.set
      split
      · rfl
      · simp [userKey_ne different]
    · intro permissions found
      obtain ⟨ttl, rfl⟩ := get_set_self found (Int.le_refl _)
      exact .inr ⟨ttl, load⟩
    · intro bounded key entry present
      rw [ttl_set]
      cases cache_set_eq_some present with
      | inl stored =>
        subst stored
        exact Int.le_refl _
      | inr earlier =>
        have limit := bounded key entry earlier
        simp only
        omega
  · rw [Int.add_assoc]
    exact observed_wait rbac userID (read.wait + read.delay)

@[simp] theorem query_snd (decision : PermissionMap → Except Failure Bool) :
    (rbac.query userID read decision).2 = (rbac.getAllPermissionsForUser userID read).2 := by
  unfold query
  split <;> rename_i passed <;> rw [passed]

theorem query_observed (decision : PermissionMap → Except Failure Bool)
    (load : maps (permissionsOf rbac.repo userID read.order)) :
    Observed maps userID rbac (rbac.query userID read decision).2 := by
  rw [query_snd]
  exact rbac.getAllPermissionsForUser_observed userID read load

theorem canForEntity_eq_ok (held : Holds maps rbac userID)
    (load : maps (permissionsOf rbac.repo userID read.order))
    (answered : (rbac.canForEntity userID entityType entityID abilities read).1 = .ok answer) :
    ∃ permissions, maps permissions ∧
      decideEach (entityVerdict entityType entityID) permissions abilities = answer := by
  unfold canForEntity at answered
  rcases rbac.getAllPermissionsForUser_cases userID read with
    ⟨permissions, hit, passed⟩ | ⟨_, passed⟩ | ⟨_, failure, passed⟩
  · rw [query_of_ok _ passed] at answered
    have now : rbac.cache.get (userKey userID) rbac.now = some permissions :=
      get_earlier (by omega) hit
    exact ⟨permissions, held permissions now, Except.ok.inj answered⟩
  · rw [query_of_ok _ passed] at answered
    exact ⟨_, load, Except.ok.inj answered⟩
  · simp [query, passed] at answered

end

section

variable {maps : PermissionMap → Prop}
  {entityType : EntityType} {checks : Nat → Read}

theorem collectForbidAbilities_spec (abilities : List Ability) (index : Nat) (rbac : RBAC driver)
    (held : Holds maps rbac userID)
    (loads : ∀ check, maps (permissionsOf rbac.repo userID (checks check).order)) :
    Observed maps userID rbac
        (collectForbidAbilities userID entityID entityType checks abilities index rbac).2 ∧
      ∀ forbidAbilities, (collectForbidAbilities userID entityID entityType checks abilities index
          rbac).1 = .ok forbidAbilities → forbidAbilities.Sublist abilities ∧
          ∀ ability ∈ abilities, ∃ permissions, maps permissions ∧
            decideEach (entityVerdict entityType entityID) permissions [ability.name] =
              decide (ability ∈ forbidAbilities) := by
  induction abilities generalizing index rbac with
  | nil =>
    refine ⟨.refl rbac, ?_⟩
    intro forbidAbilities collected
    cases collected
    exact ⟨.slnil, by simp⟩
  | cons head rest ih =>
    have observed := rbac.query_observed userID (checks index)
      (fun permissions => .ok (decideEach (entityVerdict entityType entityID)
        permissions [head.name])) (loads index)
    rw [collectForbidAbilities]
    split
    · rename_i failure after asked
      rw [canForEntity] at asked
      rw [asked] at observed
      exact ⟨observed, by simp⟩
    · rename_i can after asked
      have answer := rbac.canForEntity_eq_ok userID (checks index) held (loads index)
        (congrArg Prod.fst asked)
      rw [canForEntity] at asked
      rw [asked] at observed
      have loadsAfter : ∀ check, maps (permissionsOf after.repo userID (checks check).order) := by
        intro check
        rw [show after.repo = rbac.repo from observed.repo]
        exact loads check
      obtain ⟨observedRest, described⟩ :=
        ih (index + 1) after (observed.holds held) loadsAfter
      split
      · rename_i failure last collected
        rw [collected] at observedRest
        exact ⟨observed.trans observedRest, by simp⟩
      · rename_i forbidRest last collected
        rw [collected] at observedRest
        obtain ⟨sublist, answers⟩ := described forbidRest (by rw [collected])
        refine ⟨observed.trans observedRest, ?_⟩
        intro forbidAbilities result
        cases result
        cases can with
        | true =>
          refine ⟨sublist.cons_cons head, ?_⟩
          intro ability member
          by_cases same : ability = head
          · subst same
            simpa using answer
          · have inRest := List.mem_of_ne_of_mem same member
            simpa [same] using answers ability inRest
        | false =>
          refine ⟨sublist.cons head, ?_⟩
          intro ability member
          by_cases inRest : ability ∈ rest
          · simpa using answers ability inRest
          · have same : ability = head := by simpa [inRest] using member
            have notCollected : ability ∉ forbidRest :=
              fun collected => inRest (sublist.subset collected)
            simpa [same ▸ notCollected, same] using answer

end

theorem transaction_of_ok {rbac : RBAC driver} (commits : Bool)
    (done : body rbac = (.ok (), after)) :
    rbac.transaction commits body = if commits then (.ok (), after)
      else (.error .transaction, { after with repo := rbac.repo }) := by
  rw [transaction, done]

theorem transaction_of_error {rbac : RBAC driver} {failure : Failure} (commits : Bool)
    (failed : body rbac = (.error failure, after)) :
    rbac.transaction commits body = (.error failure, { after with repo := rbac.repo }) := by
  rw [transaction, failed]

theorem write_eq_ok {rbac : RBAC driver}
    (written : rbac.write fails call message change = .ok after) :
    after = { rbac with repo := change rbac.repo } := by
  unfold write at written
  split at written
  · contradiction
  · rename_i repo called
    rw [← Except.ok.inj written, attemptCall_eq_ok called]

theorem write_of_not_fails (rbac : RBAC driver) (message : String)
    (change : RBACRepository driver → RBACRepository driver) (succeeds : fails call = false) :
    rbac.write fails call message change = .ok { rbac with repo := change rbac.repo } := by
  simp [write, attemptCall_of_not_fails _ succeeds]

section

variable (rbac : RBAC driver) (userID entityID : Nat) (entityType : EntityType)
  (names : List AbilityName) (attempt : Attempt)

def allowedRepo : RBACRepository driver :=
  (rbac.repo.revoke userID .user (abilitiesForEntity names entityID entityType)).allow
    userID .user (abilitiesForEntity names entityID entityType)

def granted : RBAC driver :=
  { rbac.forget userID with
    repo := rbac.allowedRepo userID entityID entityType names }

theorem allowInTransaction_cases :
    allowInTransaction userID (abilitiesForEntity names entityID entityType) attempt rbac =
        (.ok (), rbac.granted userID entityID entityType names) ∨
      ∃ failure repo,
        allowInTransaction userID (abilitiesForEntity names entityID entityType) attempt rbac =
          (.error failure, { rbac with repo := repo }) := by
  unfold allowInTransaction
  split
  · exact .inr ⟨_, rbac.repo, rfl⟩
  rename_i revoked written
  rw [write_eq_ok written]
  split
  · exact .inr ⟨_, _, rfl⟩
  rename_i allowed written
  rw [write_eq_ok written]
  exact .inl rfl

theorem allowUserAbilitiesForEntity_cases :
    rbac.allowUserAbilitiesForEntity userID entityID entityType names attempt =
        (.ok (), rbac.granted userID entityID entityType names) ∨
      ∃ failure, rbac.allowUserAbilitiesForEntity userID entityID entityType names attempt =
            (.error failure, rbac) ∨
          rbac.allowUserAbilitiesForEntity userID entityID entityType names attempt =
            (.error failure, rbac.forget userID) := by
  unfold allowUserAbilitiesForEntity
  rcases rbac.allowInTransaction_cases userID entityID entityType names attempt with
    done | ⟨failure, repo, failed⟩
  · rw [transaction_of_ok _ done]
    split
    · exact .inl rfl
    · exact .inr ⟨_, .inr rfl⟩
  · rw [transaction_of_error _ failed]
    exact .inr ⟨failure, .inl rfl⟩

theorem allowUserAbilitiesForEntity_of_steady (steady : ∀ call, attempt.fails call = false)
    (commits : attempt.commits = true) :
    rbac.allowUserAbilitiesForEntity userID entityID entityType names attempt =
      (.ok (), rbac.granted userID entityID entityType names) := by
  simp only [allowUserAbilitiesForEntity, transaction, allowInTransaction,
    write_of_not_fails _ _ _ (steady _), commits]
  rfl

end

section

variable (rbac : RBAC driver) (userID entityID : Nat) (entityType : EntityType)
  (names : List AbilityName) (attempt : Attempt)

def revokedRepo : RBACRepository driver :=
  rbac.repo.revoke userID .user (abilitiesForEntity names entityID entityType)

structure Revoked (maps : PermissionMap → Prop) (forbidNames : List AbilityName)
    (after : RBAC driver) : Prop where
  answers : ∀ name ∈ names, ∃ permissions, maps permissions ∧
    decideEach (entityVerdict entityType entityID) permissions [name] = decide (name ∈ forbidNames)
  sublist : forbidNames.Sublist names
  layers : layersFor after.repo userID =
    { layersFor rbac.repo userID with first := after.repo.permissionRows userID .user }
  rows : RBACRepository.ExtendedBy forbidNames entityID entityType true
    (keptRows rbac.repo userID names entityID entityType)
    (after.repo.permissionRows userID .user)
  otherLayers : ∀ other ≠ userID, layersFor after.repo other = layersFor rbac.repo other
  entry : ∀ permissions,
    after.cache.get (userKey userID) after.now = some permissions →
    0 < rbac.cache.ttl ∧ maps permissions ∧
      after.repo = rbac.revokedRepo userID entityID entityType names
  otherEntries : ∀ other ≠ userID,
    after.cache.cache (userKey other) = rbac.cache.cache (userKey other)
  ttl : after.cache.ttl = rbac.cache.ttl
  now : rbac.now ≤ after.now
  bounded : rbac.Bounded → after.Bounded

theorem forget_bounded (bounded : rbac.Bounded) : (rbac.forget userID).Bounded := by
  intro key entry present
  simp only [forget, delete] at present
  split at present
  · contradiction
  · exact bounded key entry present

def checkedState : RBAC driver :=
  { rbac with
    repo := rbac.revokedRepo userID entityID entityType names }.forget userID

theorem createAbilityForEntity_mem : createAbilityForEntity name entityID entityType ∈
      abilitiesForEntity forbidNames entityID entityType ↔
    name ∈ forbidNames := by
  simp only [abilitiesForEntity, List.mem_map]
  constructor
  · rintro ⟨listed, member, same⟩
    have sameName : listed = name := congrArg Ability.name same
    exact sameName ▸ member
  · intro member
    exact ⟨name, member, rfl⟩

variable {rbac userID entityID entityType names} {maps : PermissionMap → Prop}

theorem observed_of_checks
    (observed : Observed maps userID (rbac.checkedState userID entityID entityType names) checked) :
    Observed maps userID rbac { checked with repo := rbac.repo } where
  repo := rfl
  ttl := observed.ttl
  now := observed.now
  others := by
    intro other different
    rw [show checked.cache.cache (userKey other) = _ from observed.others other different]
    simp [checkedState, forget, delete, userKey_ne different]
  entry := by
    intro permissions found
    rcases observed.entry permissions found with earlier | filled
    · exact absurd earlier (by
        simp [checkedState, forget])
    · exact .inr filled
  bounded := fun bounded => observed.bounded (forget_bounded _ userID bounded)

theorem Revoked.observed
    (revoked : rbac.Revoked userID entityID entityType names maps forbidNames after) :
    Observed maps userID rbac { after with repo := rbac.repo } where
  repo := rfl
  ttl := revoked.ttl
  now := revoked.now
  others := revoked.otherEntries
  entry := by
    intro permissions found
    obtain ⟨ttl, filled, _⟩ := revoked.entry permissions found
    exact .inr ⟨ttl, filled⟩
  bounded := revoked.bounded

theorem revoked_of_checks
    (observed : Observed maps userID (rbac.checkedState userID entityID entityType names) checked)
    (sublist : forbidNames.Sublist names)
    (answers : ∀ name ∈ names, ∃ permissions, maps permissions ∧
      decideEach (entityVerdict entityType entityID) permissions [name] =
      decide (name ∈ forbidNames)) {cache : PermissionCache}
    (kept : cache = checked.cache ∧ forbidNames = [] ∨
      cache = checked.cache.delete (userKey userID)) :
    rbac.Revoked userID entityID entityType names maps forbidNames { checked with
        repo := checked.repo.forbid userID .user
          (abilitiesForEntity forbidNames entityID entityType)
        cache := cache } := by
  have rolledBack := observed_of_checks observed
  have repo : checked.repo = rbac.revokedRepo userID entityID entityType names :=
    observed.repo
  obtain ⟨layers, otherLayers⟩ :=
    layersFor_revoke_apply (abilitiesForEntity forbidNames entityID entityType) true
  rw [repo]
  refine ⟨answers, sublist, layers, extendedBy_revoke_apply forbidNames true, otherLayers,
    ?_, ?_, ?_, rolledBack.now, ?_⟩
  · rcases kept with ⟨rfl, rfl⟩ | rfl
    · intro permissions found
      rcases observed.entry permissions found with earlier | ⟨ttl, filled⟩
      · exact absurd earlier (by
          simp [checkedState, forget])
      · exact ⟨ttl, filled, rfl⟩
    · intro permissions found
      exact absurd found (by simp)
  · rcases kept with ⟨rfl, _⟩ | rfl
    · exact rolledBack.others
    · intro other different
      rw [← rolledBack.others other different]
      simp [delete, userKey_ne different]
  · rcases kept with ⟨rfl, _⟩ | rfl <;> exact rolledBack.ttl
  · rcases kept with ⟨rfl, _⟩ | rfl
    · exact rolledBack.bounded
    · exact fun bounded => forget_bounded checked userID (rolledBack.bounded bounded)

theorem collectForbidAbilities_names (held : Holds maps start userID)
    (loads : ∀ check, maps (permissionsOf start.repo userID (checks check).order))
    (collected : collectForbidAbilities userID entityID entityType checks
      (abilitiesForEntity names entityID entityType) 0 start = (.ok forbidAbilities, checked)) :
    ∃ forbidNames, forbidAbilities = abilitiesForEntity forbidNames entityID entityType ∧
      forbidNames.Sublist names ∧
      (∀ name ∈ names, ∃ permissions, maps permissions ∧
        decideEach (entityVerdict entityType entityID) permissions [name] =
          decide (name ∈ forbidNames)) ∧
      Observed maps userID start checked := by
  obtain ⟨observed, described⟩ := collectForbidAbilities_spec
    (abilitiesForEntity names entityID entityType) 0 start held loads
  obtain ⟨sublist, answers⟩ := described forbidAbilities (by rw [collected])
  rw [collected] at observed
  obtain ⟨forbidNames, subNames, same⟩ := List.sublist_map_iff.mp sublist
  change forbidAbilities = abilitiesForEntity forbidNames entityID entityType at same
  subst same
  refine ⟨forbidNames, rfl, subNames, ?_, observed⟩
  intro name listed
  have answer := answers (createAbilityForEntity name entityID entityType)
    ((createAbilityForEntity_mem entityID entityType).mpr listed)
  simp only [createAbilityForEntity_mem] at answer
  exact answer

theorem forbidCollected_cases (userID : Nat) (attempt : Attempt) (forbidAbilities : List Ability)
    (checked : RBAC driver) :
    (∃ cache, forbidCollected userID attempt (.ok forbidAbilities, checked) =
      (.ok (), { checked with
          repo := checked.repo.forbid userID .user forbidAbilities
          cache := cache }) ∧
      (cache = checked.cache ∧ forbidAbilities = [] ∨
        cache = checked.cache.delete (userKey userID))) ∨
      ∃ failure, forbidCollected userID attempt (.ok forbidAbilities, checked) =
        (.error failure, checked) := by
  cases forbidAbilities with
  | nil => exact .inl ⟨checked.cache, rfl, .inl ⟨rfl, rfl⟩⟩
  | cons head rest =>
    rw [forbidCollected]
    · split
      · exact .inr ⟨_, rfl⟩
      · rename_i forbidden written
        rw [write_eq_ok written]
        exact .inl ⟨_, rfl, .inr rfl⟩
    · simp

theorem revokeOrForbidInTransaction_eq (succeeds : attempt.fails .revoke = false) :
    revokeOrForbidInTransaction userID entityID entityType
        (abilitiesForEntity names entityID entityType) attempt rbac = forbidCollected userID attempt
        (collectForbidAbilities userID entityID entityType attempt.checks
          (abilitiesForEntity names entityID entityType) 0
          (rbac.checkedState userID entityID entityType names)) := by
  rw [revokeOrForbidInTransaction, write_of_not_fails _ _ _ succeeds]
  rfl

theorem revokeOrForbidInTransaction_cases
    (loads : ∀ check, maps
      (permissionsOf (rbac.revokedRepo userID entityID entityType names) userID
      (attempt.checks check).order)) :
    (∃ after forbidNames,
      revokeOrForbidInTransaction userID entityID entityType
          (abilitiesForEntity names entityID entityType) attempt rbac = (.ok (), after) ∧
        rbac.Revoked userID entityID entityType names maps forbidNames after) ∨
      ∃ after failure, revokeOrForbidInTransaction userID entityID entityType
            (abilitiesForEntity names entityID entityType) attempt rbac = (.error failure, after) ∧
          Observed maps userID rbac { after with repo := rbac.repo } := by
  cases failing : attempt.fails .revoke with
  | true =>
    refine .inr ⟨rbac, .withMessage "failed to revoke abilities for user"
      (.repository .revoke), ?_, .refl rbac⟩
    simp [revokeOrForbidInTransaction, write, attemptCall, failing]
  | false =>
    rw [revokeOrForbidInTransaction_eq attempt failing]
    have held := holds_forget maps
      { rbac with repo := rbac.revokedRepo userID entityID entityType names } userID
    obtain ⟨observed, _⟩ := collectForbidAbilities_spec
      (abilitiesForEntity names entityID entityType) 0
      (rbac.checkedState userID entityID entityType names) held loads
    cases collected : collectForbidAbilities userID entityID entityType attempt.checks
        (abilitiesForEntity names entityID entityType) 0
        (rbac.checkedState userID entityID entityType names) with
    | mk result checked =>
      rw [collected] at observed
      have rolledBack := observed_of_checks observed
      cases result with
      | error failure => exact .inr ⟨checked, failure, rfl, rolledBack⟩
      | ok forbidAbilities =>
        obtain ⟨forbidNames, rfl, sublist, answers, _⟩ :=
          collectForbidAbilities_names held loads collected
        rcases forbidCollected_cases userID attempt _ checked with
          ⟨cache, done, kept⟩ | ⟨failure, failed⟩
        · refine .inl ⟨_, forbidNames, done, revoked_of_checks observed sublist answers ?_⟩
          simpa [abilitiesForEntity] using kept
        · exact .inr ⟨checked, failure, failed, rolledBack⟩

theorem revokeOrForbid_cases (maps : PermissionMap → Prop)
    (loads : ∀ check, maps
      (permissionsOf (rbac.revokedRepo userID entityID entityType names) userID
      (attempt.checks check).order)) :
    (∃ after forbidNames,
      rbac.revokeOrForbidUserAbilitiesForEntity userID entityID entityType names
          attempt = (.ok (), after) ∧
        rbac.Revoked userID entityID entityType names maps forbidNames after) ∨
      ∃ after failure, rbac.revokeOrForbidUserAbilitiesForEntity userID entityID entityType names
            attempt = (.error failure, after) ∧
          Observed maps userID rbac after := by
  unfold revokeOrForbidUserAbilitiesForEntity
  rcases revokeOrForbidInTransaction_cases attempt loads with
    ⟨after, forbidNames, done, revoked⟩ | ⟨after, failure, failed, observed⟩
  · rw [transaction_of_ok _ done]
    split
    · exact .inl ⟨after, forbidNames, rfl, revoked⟩
    · exact .inr ⟨_, _, rfl, revoked.observed⟩
  · rw [transaction_of_error _ failed]
    exact .inr ⟨_, failure, rfl, observed⟩

def Loaded (rbac : RBAC driver) (userID entityID : Nat) (entityType : EntityType)
    (names : List AbilityName) (permissions : PermissionMap) : Prop :=
  ∃ order, permissions =
    permissionsOf (rbac.revokedRepo userID entityID entityType names) userID order

theorem revokeOrForbid_cases_loaded : (∃ after forbidNames,
    rbac.revokeOrForbidUserAbilitiesForEntity userID entityID entityType names
        attempt = (.ok (), after) ∧
      rbac.Revoked userID entityID entityType names
        (rbac.Loaded userID entityID entityType names) forbidNames after) ∨
    ∃ after failure, rbac.revokeOrForbidUserAbilitiesForEntity userID entityID entityType names
          attempt = (.error failure, after) ∧
        Observed (rbac.Loaded userID entityID entityType names) userID rbac after :=
  revokeOrForbid_cases attempt _ fun _ => ⟨_, rfl⟩

variable {attempt}

theorem revoked_of_ok
    (done : rbac.revokeOrForbidUserAbilitiesForEntity userID entityID entityType names attempt =
      (.ok (), after)) :
    ∃ forbidNames, rbac.Revoked userID entityID entityType names
      (rbac.Loaded userID entityID entityType names) forbidNames after := by
  rcases revokeOrForbid_cases_loaded attempt with
    ⟨_, forbidNames, result, revoked⟩ | ⟨_, _, result, _⟩ <;> cases done.symm.trans result
  exact ⟨forbidNames, revoked⟩

theorem Revoked.loaded
    (loads : ∀ permissions, maps permissions →
      rbac.Loaded userID entityID entityType names permissions)
    (revoked : rbac.Revoked userID entityID entityType names maps forbidNames after) :
    rbac.Revoked userID entityID entityType names (rbac.Loaded userID entityID entityType names)
      forbidNames after := by
  refine { revoked with answers := ?_, entry := ?_ }
  · intro name listed
    obtain ⟨permissions, load, decided⟩ := revoked.answers name listed
    exact ⟨permissions, loads permissions load, decided⟩
  · intro permissions found
    obtain ⟨ttl, load, repo⟩ := revoked.entry permissions found
    exact ⟨ttl, loads permissions load, repo⟩

end

end RBAC

end ShadowPanel.Rbac
