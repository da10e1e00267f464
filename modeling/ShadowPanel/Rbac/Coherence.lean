import ShadowPanel.Rbac.Isolation

namespace ShadowPanel.Rbac

open Data Domain Repositories RBAC PermissionCache RBACRepository

/-! The permission cache against the tables, over whole runs of one service that
is the only writer. -/

inductive Question where
  | can (abilities : List AbilityName)
  | canOneOf (abilities : List AbilityName)
  | canForEntity (entityType : EntityType) (entityID : Nat)
      (abilities : List AbilityName)
  | canAnyForEntity (entityType : EntityType) (entityID : Nat)
      (abilities : List AbilityName)

def RBAC.ask (rbac : RBAC driver) (userID : Nat) (question : Question) (read : Read) :
    Except Failure Bool × RBAC driver :=
  match question with
  | .can abilities => rbac.can userID abilities read
  | .canOneOf abilities => rbac.canOneOf userID abilities read
  | .canForEntity entityType entityID abilities =>
    rbac.canForEntity userID entityType entityID abilities read
  | .canAnyForEntity entityType entityID abilities =>
    rbac.canAnyForEntity userID entityType entityID abilities read

inductive Operation where
  | ask (userID : Nat) (question : Question) (read : Read)
  | setRoles (userID : Nat) (roleNames : List String) (attempt : Attempt)
  | allow (userID entityID : Nat) (entityType : EntityType)
      (names : List AbilityName) (attempt : Attempt)
  | revokeOrForbid (userID entityID : Nat) (entityType : EntityType)
      (names : List AbilityName) (attempt : Attempt)
  | cleanup
  | wait (duration : Nat)

structure Tracked (driver : Driver) where
  rbac : RBAC driver
  roleChange : Nat → Option Int

namespace Tracked

def start (repo : RBACRepository driver) (ttl now : Int) : Tracked driver where
  rbac := { repo := repo, cache := .new ttl, now := now }
  roleChange := fun _ => none

def step (state : Tracked driver) : Operation → Tracked driver
  | .ask userID question read =>
    { state with rbac := (state.rbac.ask userID question read).2 }
  | .setRoles userID roleNames attempt =>
    match state.rbac.setRolesToUser userID roleNames attempt with
    | (.error _, after) => { state with rbac := after }
    | (.ok (), after) =>
      { rbac := after
        roleChange := fun other =>
          if other = userID then some state.rbac.now else state.roleChange other }
  | .allow userID entityID entityType names attempt =>
    { state with
      rbac := (state.rbac.allowUserAbilitiesForEntity userID entityID entityType names attempt).2 }
  | .revokeOrForbid userID entityID entityType names attempt =>
    { state with
      rbac := (state.rbac.revokeOrForbidUserAbilitiesForEntity userID entityID
        entityType names attempt).2 }
  | .cleanup =>
    { state with
      rbac := { state.rbac with cache := state.rbac.cache.cleanup state.rbac.now } }
  | .wait duration =>
    { state with rbac := { state.rbac with now := state.rbac.now + duration } }

def run (state : Tracked driver) (operations : List Operation) : Tracked driver :=
  operations.foldl step state

end Tracked

def Operation.Uses (orders : RowOrder → Prop) : Operation → Prop
  | .ask _ _ read => orders read.order
  | .revokeOrForbid _ _ _ _ attempt => ∀ check, orders (attempt.checks check).order
  | _ => True

/-- The operation is not a revocation that is rolled back once its first check
has read the tables inside the transaction. -/
def Operation.Clean (rbac : RBAC driver) : Operation → Prop
  | .revokeOrForbid userID entityID entityType names attempt =>
    (rbac.revokeOrForbidUserAbilitiesForEntity userID entityID entityType names
        attempt).1 = .ok () ∨
      attempt.fails .revoke = true ∨ names = [] ∨
      ∃ failure, loadPermissions (rbac.revokedRepo userID entityID entityType names)
        userID (attempt.checks 0) = .error failure
  | _ => True

def Tracked.CleanRun (state : Tracked driver) : List Operation → Prop
  | [] => True
  | operation :: rest =>
    operation.Clean state.rbac ∧ (state.step operation).CleanRun rest

namespace RBAC

private theorem layersFor_roles_of_ne (repo : RBACRepository driver) (userID : Nat)
    (different : other ≠ userID) (roles : List RestrictedRole) :
    layersFor ((repo.clearRolesForEntity userID .user).assignRolesForEntity userID .user
        roles) other = layersFor repo other := by
  have apart : ¬(other = userID ∧ EntityType.user = EntityType.user) :=
    fun same => different same.1
  have cleared : layersFor (repo.clearRolesForEntity userID .user) other = _ :=
    layersFor_congr other repo (fun _ => rfl) (roleRows_clearRolesForEntity_of_ne apart)
  rw [layersFor_congr other _ (fun _ => rows_assignRolesForEntity.1)
    (rows_assignRolesForEntity.2 apart), cleared,
    rows_assignRolesForEntity.1]
  rfl

section

variable (rbac : RBAC driver) (userID : Nat) (roleNames : List String) (attempt : Attempt)

private theorem setRolesInTransaction_cases :
    (∃ repo, setRolesInTransaction userID roleNames attempt rbac =
        (.ok (), { rbac with repo := repo }) ∧
      ∀ other ≠ userID, layersFor repo other = layersFor rbac.repo other) ∨
      ∃ failure repo, setRolesInTransaction userID roleNames attempt rbac =
        (.error failure, { rbac with repo := repo }) := by
  unfold setRolesInTransaction
  split
  · exact .inr ⟨_, rbac.repo, rfl⟩
  split
  · exact .inr ⟨_, rbac.repo, rfl⟩
  rename_i restricted _
  split
  · exact .inr ⟨_, rbac.repo, rfl⟩
  rename_i cleared clearedWrite
  rw [write_eq_ok clearedWrite]
  split
  · exact .inr ⟨_, _, rfl⟩
  rename_i assigned assignedWrite
  rw [write_eq_ok assignedWrite]
  refine .inl ⟨_, rfl, ?_⟩
  intro other different
  exact layersFor_roles_of_ne rbac.repo userID different restricted

theorem setRolesToUser_cases : (∃ repo, rbac.setRolesToUser userID roleNames attempt =
      (.ok (), { rbac with repo := repo }) ∧
    ∀ other ≠ userID, layersFor repo other = layersFor rbac.repo other) ∨
    ∃ failure, rbac.setRolesToUser userID roleNames attempt = (.error failure, rbac) := by
  unfold setRolesToUser
  rcases rbac.setRolesInTransaction_cases userID roleNames attempt with
    ⟨repo, done, layers⟩ | ⟨failure, repo, failed⟩
  · rw [transaction_of_ok _ done]
    split
    · exact .inl ⟨repo, rfl, layers⟩
    · exact .inr ⟨_, rfl⟩
  · rw [transaction_of_error _ failed]
    exact .inr ⟨failure, rfl⟩

end

private theorem transaction_eq_error {rbac after : RBAC driver} {failure : Failure}
    {body : RBAC driver → Except Failure Unit × RBAC driver}
    (failed : rbac.transaction commits body = (.error failure, after)) :
    after = { (body rbac).2 with repo := rbac.repo } := by
  unfold transaction at failed
  split at failed
  · cases failed
    rw [‹body rbac = _›]
  · split at failed <;> cases failed
    rw [‹body rbac = _›]

private theorem revokeOrForbid_error_of_clean (rbac : RBAC driver) {failure : Failure}
    {after : RBAC driver}
    (failed : rbac.revokeOrForbidUserAbilitiesForEntity userID entityID entityType names attempt =
      (.error failure, after))
    (clean : attempt.fails .revoke = true ∨ names = [] ∨
      ∃ failure, loadPermissions (rbac.revokedRepo userID entityID entityType names) userID
      (attempt.checks 0) = .error failure) :
    after = rbac ∨ after.repo = rbac.repo ∧
      after.cache = rbac.cache.delete (userKey userID) ∧ rbac.now ≤ after.now := by
  have last := transaction_eq_error failed
  cases failing : attempt.fails .revoke with
  | true =>
    left
    rw [last]
    simp [revokeOrForbidInTransaction, write, attemptCall, failing]
  | false =>
    right
    rw [revokeOrForbidInTransaction_eq attempt failing] at last
    cases names with
    | nil =>
      rw [last]
      exact ⟨rfl, rfl, Int.le_refl _⟩
    | cons name rest =>
      obtain ⟨loadFailure, loadFailed⟩ : ∃ failure, loadPermissions
          (rbac.revokedRepo userID entityID entityType (name :: rest)) userID
          (attempt.checks 0) = .error failure := by
        simpa [failing] using clean
      have miss := rbac.cache.get_delete_self (userKey userID) (rbac.now + (attempt.checks 0).wait)
      have first : collectForbidAbilities userID entityID entityType attempt.checks
          (abilitiesForEntity (name :: rest) entityID entityType) 0
          (rbac.checkedState userID entityID entityType (name :: rest)) =
        (.error (.withMessage "failed to check abilities for user"
            (.withMessage "get permissions for user" loadFailure)),
          { rbac.checkedState userID entityID entityType (name :: rest) with
            now := rbac.now + (attempt.checks 0).wait + (attempt.checks 0).delay }) := by
        simp [abilitiesForEntity, collectForbidAbilities, canForEntity, query,
          getAllPermissionsForUser, checkedState, forget, miss, loadFailed]
      rw [first] at last
      rw [last]
      refine ⟨rfl, rfl, ?_⟩
      simp only [forbidCollected]
      omega

end RBAC

/-- A live entry is what the tables give in one of the orders, or a change of
the user's roles was committed when it was already stored. -/
structure Coherent (orders : RowOrder → Prop) (state : Tracked driver) : Prop where
  bounded : state.rbac.Bounded
  entries : ∀ userID entry,
    state.rbac.cache.cache (userKey userID) = some entry →
    state.rbac.cache.ttl ≠ 0 → state.rbac.now ≤ entry.expiresAt →
    (∃ order, orders order ∧
        entry.permissions = permissionsOf state.rbac.repo userID order) ∨
      ∃ time, state.roleChange userID = some time ∧ entry.expiresAt ≤ time + state.rbac.cache.ttl

namespace Coherent

variable {orders : RowOrder → Prop}

theorem start (repo : RBACRepository driver) (ttl now : Int) :
    Coherent orders (Tracked.start repo ttl now) where
  bounded := by
    intro key entry present
    contradiction
  entries := by
    intro userID entry present
    contradiction

variable {state : Tracked driver} (coherent : Coherent orders state)

include coherent

theorem entry_kept (after : RBAC driver)
    (layers : layersFor after.repo userID = layersFor state.rbac.repo userID)
    (kept : after.cache.cache (userKey userID) = state.rbac.cache.cache (userKey userID))
    (ttl : after.cache.ttl = state.rbac.cache.ttl) (now : state.rbac.now ≤ after.now)
    (present : after.cache.cache (userKey userID) = some entry) (nonzero : after.cache.ttl ≠ 0)
    (live : after.now ≤ entry.expiresAt) :
    (∃ order, orders order ∧
        entry.permissions = permissionsOf after.repo userID order) ∨
      ∃ time, state.roleChange userID = some time ∧ entry.expiresAt ≤ time + after.cache.ttl := by
  rw [kept] at present
  rw [ttl] at nonzero ⊢
  cases coherent.entries userID entry present nonzero (Int.le_trans now live) with
  | inl current =>
    obtain ⟨order, chosen, load⟩ := current
    exact .inl ⟨order, chosen, by rw [load, permissionsOf_congr layers]⟩
  | inr changed => exact .inr changed

theorem of_others {after : RBAC driver} (userID : Nat) (bounded : after.Bounded)
    (ttl : after.cache.ttl = state.rbac.cache.ttl) (now : state.rbac.now ≤ after.now)
    (layers : ∀ other ≠ userID, layersFor after.repo other = layersFor state.rbac.repo other)
    (others : ∀ other ≠ userID, after.cache.cache (userKey other) =
      state.rbac.cache.cache (userKey other))
    (own : ∀ permissions, after.cache.get (userKey userID) after.now = some permissions →
      ∃ order, orders order ∧ permissions = permissionsOf after.repo userID order) :
    Coherent orders { state with rbac := after } where
  bounded := bounded
  entries := by
    intro other entry present nonzero live
    by_cases same : other = userID
    · subst same
      exact .inl (own _ (get_of_live nonzero present live))
    · exact coherent.entry_kept after (layers other same) (others other same) ttl now present
        nonzero live

theorem of_kept (repo : after.repo = state.rbac.repo) (cache : after.cache = state.rbac.cache)
    (now : state.rbac.now ≤ after.now) : Coherent orders { state with rbac := after } where
  bounded := by
    intro key entry present
    rw [cache] at present ⊢
    have limit := coherent.bounded key entry present
    simp only
    omega
  entries := by
    intro userID entry present nonzero live
    exact coherent.entry_kept after (by rw [repo]) (by rw [cache]) (by rw [cache]) now present
      nonzero live

theorem of_forgotten {after : RBAC driver} (userID : Nat)
    (layers : ∀ other ≠ userID, layersFor after.repo other = layersFor state.rbac.repo other)
    (cache : after.cache = state.rbac.cache.delete (userKey userID))
    (now : state.rbac.now ≤ after.now) : Coherent orders { state with rbac := after } := by
  apply coherent.of_others userID _ _ now layers
  · intro other different
    rw [cache]
    simp [delete, userKey_ne different]
  · intro permissions found
    simp [cache] at found
  · intro key entry present
    have limit := forget_bounded state.rbac userID coherent.bounded key entry
    rw [cache] at present ⊢
    have earlier := limit present
    simp only [forget] at earlier ⊢
    omega
  · rw [cache]
    rfl

private theorem ask_step (userID : Nat) (question : Question) {read : Read}
    (chosen : orders read.order) :
    Coherent orders (state.step (.ask userID question read)) := by
  have query : (state.rbac.ask userID question read).2 =
      (state.rbac.getAllPermissionsForUser userID read).2 := by
    cases question <;> exact query_snd _ _ _ _
  rw [Tracked.step, query]
  rcases state.rbac.getAllPermissionsForUser_cases userID read with
    ⟨permissions, _, passed⟩ | ⟨_, passed⟩ | ⟨_, failure, passed⟩
  · rw [passed]
    exact coherent.of_kept rfl rfl (by simp only; omega)
  · have observed : RBAC.Observed (fun permissions => ∃ order, orders order ∧
          permissions = permissionsOf state.rbac.repo userID order) userID state.rbac
        (state.rbac.getAllPermissionsForUser userID read).2 :=
      state.rbac.getAllPermissionsForUser_observed userID read ⟨_, chosen, rfl⟩
    rw [passed] at observed ⊢
    refine coherent.of_others userID (observed.bounded coherent.bounded) observed.ttl
      observed.now (fun _ _ => rfl) observed.others ?_
    intro permissions found
    obtain ⟨_, rfl⟩ := get_set_self found (Int.le_refl _)
    exact ⟨_, chosen, rfl⟩
  · rw [passed]
    exact coherent.of_kept rfl rfl (by simp only; omega)

private theorem setRoles_step (userID : Nat) (roleNames : List String) (attempt : Attempt) :
    Coherent orders (state.step (.setRoles userID roleNames attempt)) := by
  cases state.rbac.setRolesToUser_cases userID roleNames attempt with
  | inr failed =>
    obtain ⟨failure, failed⟩ := failed
    simp only [Tracked.step, failed]
    exact coherent
  | inl done =>
    obtain ⟨repo, done, layers⟩ := done
    simp only [Tracked.step, done]
    refine ⟨coherent.bounded, ?_⟩
    intro other entry present nonzero live
    by_cases same : other = userID
    · subst same
      exact .inr ⟨state.rbac.now, by simp, coherent.bounded _ entry present⟩
    · simp only [if_neg same]
      exact coherent.entry_kept { state.rbac with repo := repo }
        (layers other same) rfl rfl (Int.le_refl _) present nonzero live

private theorem allow_step (userID entityID : Nat) (entityType : EntityType)
    (names : List AbilityName) (attempt : Attempt) :
    Coherent orders (state.step (.allow userID entityID entityType names attempt)) := by
  rw [Tracked.step]
  rcases state.rbac.allowUserAbilitiesForEntity_cases userID entityID entityType names
      attempt with done | ⟨failure, failed | failed⟩
  · rw [done]
    exact coherent.of_forgotten userID
      (fun _ different => granted_otherLayers different) rfl (Int.le_refl _)
  · rw [failed]
    exact coherent
  · rw [failed]
    exact coherent.of_forgotten userID (fun _ _ => rfl) rfl (Int.le_refl _)

private theorem revokeOrForbid_step {userID entityID : Nat} {attempt : Attempt}
    (chosen : ∀ check, orders (attempt.checks check).order)
    (clean : (Operation.revokeOrForbid userID entityID entityType names attempt).Clean state.rbac) :
    Coherent orders (state.step (.revokeOrForbid userID entityID entityType names attempt)) := by
  rw [Tracked.step]
  rcases revokeOrForbid_cases attempt
      (fun permissions => ∃ order, orders order ∧ permissions = permissionsOf
        (state.rbac.revokedRepo userID entityID entityType names) userID order)
      (fun check => ⟨_, chosen check, rfl⟩) with
    ⟨after, forbidNames, done, revoked⟩ | ⟨after, failure, failed, _⟩
  · rw [done]
    refine coherent.of_others userID (revoked.bounded coherent.bounded) revoked.ttl
      revoked.now revoked.otherLayers revoked.otherEntries ?_
    intro permissions found
    obtain ⟨_, load, repo⟩ := revoked.entry permissions found
    simp only [repo]
    exact load
  · have early := Or.resolve_left clean (by simp [failed])
    rw [failed]
    cases state.rbac.revokeOrForbid_error_of_clean failed early with
    | inl unchanged =>
      rw [unchanged]
      exact coherent
    | inr forgotten =>
      obtain ⟨repo, cache, now⟩ := forgotten
      exact coherent.of_forgotten userID (fun _ _ => by rw [repo]) cache now

private theorem cleanup_step : Coherent orders (state.step .cleanup) := by
  have kept : ∀ key entry,
      (state.rbac.cache.cleanup state.rbac.now).cache key = some entry →
      state.rbac.cache.cache key = some entry := by
    intro key entry present
    exact (Option.filter_eq_some_iff.mp present).1
  refine ⟨fun key entry present => coherent.bounded key entry (kept key entry present), ?_⟩
  intro userID entry present nonzero live
  exact coherent.entries userID entry (kept _ entry present) nonzero live

theorem step {operation : Operation} (uses : operation.Uses orders)
    (clean : operation.Clean state.rbac) : Coherent orders (state.step operation) := by
  cases operation with
  | ask userID question read => exact coherent.ask_step userID question uses
  | setRoles userID roleNames attempt =>
    exact coherent.setRoles_step userID roleNames attempt
  | allow userID entityID entityType names attempt =>
    exact coherent.allow_step userID entityID entityType names attempt
  | revokeOrForbid userID entityID entityType names attempt =>
    exact coherent.revokeOrForbid_step uses clean
  | cleanup => exact coherent.cleanup_step
  | wait duration => exact coherent.of_kept rfl rfl (by simp only; omega)

theorem run (uses : ∀ operation ∈ operations, operation.Uses orders)
    (clean : state.CleanRun operations) : Coherent orders (state.run operations) := by
  induction operations generalizing state with
  | nil => exact coherent
  | cons operation rest ih =>
    exact ih (coherent.step (uses operation (by simp)) clean.1)
      (fun later member => uses later (by simp [member])) clean.2

end Coherent

namespace Tracked

private theorem ttl_step (state : Tracked driver) (operation : Operation) :
    (state.step operation).rbac.cache.ttl = state.rbac.cache.ttl := by
  cases operation with
  | ask userID question read =>
    have observed : RBAC.Observed (fun _ => True) userID state.rbac
        (state.rbac.ask userID question read).2 := by
      cases question <;> exact query_observed _ _ _ _ trivial
    exact observed.ttl
  | setRoles userID roleNames attempt =>
    cases state.rbac.setRolesToUser_cases userID roleNames attempt with
    | inl done =>
      obtain ⟨repo, done, _⟩ := done
      simp only [step, done]
    | inr failed =>
      obtain ⟨failure, failed⟩ := failed
      simp only [step, failed]
  | allow userID entityID entityType names attempt =>
    rw [step]
    rcases state.rbac.allowUserAbilitiesForEntity_cases userID entityID entityType names
        attempt with done | ⟨failure, failed | failed⟩
    · rw [done]
      rfl
    · rw [failed]
    · rw [failed]
      rfl
  | revokeOrForbid userID entityID entityType names attempt =>
    rw [step]
    rcases revokeOrForbid_cases_loaded attempt with
      ⟨after, forbidNames, done, revoked⟩ | ⟨after, failure, failed, observed⟩
    · rw [done]
      exact revoked.ttl
    · rw [failed]
      exact observed.ttl
  | cleanup | wait duration => rfl

private theorem ttl_run (operations : List Operation) (state : Tracked driver) :
    (state.run operations).rbac.cache.ttl = state.rbac.cache.ttl := by
  induction operations generalizing state with
  | nil => rfl
  | cons operation rest ih =>
    exact (ih (state.step operation)).trans (state.ttl_step operation)

end Tracked

def RBAC.uncached (rbac : RBAC driver) : RBAC driver := { rbac with cache := .new 0 }

def Question.decision : Question → PermissionMap → Except Failure Bool
  | .can abilities => fun permissions =>
    .ok (decideEach globalVerdict permissions abilities)
  | .canOneOf abilities => fun permissions => .ok (decideOneOf permissions abilities)
  | .canForEntity entityType entityID abilities => fun permissions =>
    .ok (decideEach (entityVerdict entityType entityID) permissions abilities)
  | .canAnyForEntity entityType entityID abilities => fun permissions =>
    match decideAny entityType entityID permissions abilities with
    | none => .error .nilPointer
    | some allowed => .ok allowed

theorem RBAC.ask_eq_query (rbac : RBAC driver) (userID : Nat) (question : Question) (read : Read) :
    rbac.ask userID question read = rbac.query userID read question.decision := by
  cases question <;> rfl

private theorem RBAC.uncached_ask (rbac : RBAC driver) (userID : Nat) (question : Question)
    {read : Read} (steady : read.Steady) :
    (rbac.uncached.ask userID question read).1 =
      question.decision (permissionsOf rbac.repo userID read.order) := by
  rw [ask_eq_query]
  rcases rbac.uncached.getAllPermissionsForUser_cases userID read with
    ⟨_, hit, _⟩ | ⟨_, passed⟩ | ⟨unsteady, _⟩
  · cases hit
  · rw [query_of_ok _ passed]
    rfl
  · exact absurd steady unsteady

/-- In a run without a rolled-back check, a query about a user whose roles were
last changed longer ago than the TTL returns what the service without a cache
returns over the same tables, in one of the orders in which rows were read. -/
theorem run_ask_eq_uncached (orders : RowOrder → Prop) (repo : RBACRepository driver)
    (ttl now : Int) (operations : List Operation)
    (uses : ∀ operation ∈ operations, operation.Uses orders)
    (clean : (Tracked.start repo ttl now).CleanRun operations) (userID : Nat) (question : Question)
    (read : Read) (chosen : orders read.order) (steady : read.Steady)
    (settled : ∀ time, ((Tracked.start repo ttl now).run operations).roleChange userID = some time →
      time + ttl < ((Tracked.start repo ttl now).run operations).rbac.now + read.wait) :
    ∃ order, orders order ∧
      (((Tracked.start repo ttl now).run operations).rbac.ask userID question read).1 =
        (((Tracked.start repo ttl now).run operations).rbac.uncached.ask userID question
          { read with order := order }).1 := by
  have coherent : Coherent orders ((Tracked.start repo ttl now).run operations) :=
    (Coherent.start repo ttl now).run uses clean
  have ttlEq := Tracked.ttl_run operations (Tracked.start repo ttl now)
  revert coherent ttlEq settled
  generalize (Tracked.start repo ttl now).run operations = state
  intro settled coherent ttlEq
  have decided : ∃ order, orders order ∧ (state.rbac.ask userID question read).1 =
      question.decision (permissionsOf state.rbac.repo userID order) := by
    rw [ask_eq_query]
    rcases state.rbac.getAllPermissionsForUser_cases userID read with
      ⟨permissions, hit, passed⟩ | ⟨_, passed⟩ | ⟨unsteady, _⟩
    · rw [query_of_ok _ passed]
      obtain ⟨nonzero, entry, present, live, rfl⟩ := get_eq_some hit
      cases coherent.entries userID entry present nonzero (by omega) with
      | inl current =>
        obtain ⟨order, used, load⟩ := current
        exact ⟨order, used, by rw [load]⟩
      | inr changed =>
        obtain ⟨time, change, stored⟩ := changed
        have passedTTL := settled time change
        rw [ttlEq] at stored
        simp only [Tracked.start, new] at stored
        omega
    · rw [query_of_ok _ passed]
      exact ⟨read.order, chosen, rfl⟩
    · exact absurd steady unsteady
  obtain ⟨order, used, answer⟩ := decided
  refine ⟨order, used, ?_⟩
  rw [answer]
  exact (uncached_ask state.rbac userID question
    (show Read.Steady { read with order := order } from steady)).symm

theorem run_ask_eq_uncached_roleGrant :
    let state := (Tracked.start roleGrant.repo 60 0).run
      [.ask 7 (.canForEntity .server 5 ["game-server-start"]) (.undisturbed storedOrder),
        .setRoles 7 [] (.undisturbed storedOrder), .wait 61]
    state.roleChange 7 = some 0 ∧
      (state.rbac.ask 7 (.canForEntity .server 5 ["game-server-start"])
          (.undisturbed storedOrder)).1 =
        (state.rbac.uncached.ask 7 (.canForEntity .server 5 ["game-server-start"])
          (.undisturbed storedOrder)).1 := by
  refine ⟨rfl, ?_⟩
  obtain ⟨order, used, answer⟩ := run_ask_eq_uncached (· = storedOrder) roleGrant.repo 60 0
    [.ask 7 (.canForEntity .server 5 ["game-server-start"]) (.undisturbed storedOrder),
      .setRoles 7 [] (.undisturbed storedOrder), .wait 61]
    (by
      intro operation member
      simp only [List.mem_cons, List.not_mem_nil, or_false] at member
      rcases member with rfl | rfl | rfl <;> trivial)
    ⟨trivial, trivial, trivial, trivial⟩ 7
    (.canForEntity .server 5 ["game-server-start"]) (.undisturbed storedOrder) rfl
    (Read.steady_undisturbed storedOrder)
    (by
      intro time change
      cases change
      decide)
  subst used
  exact answer

theorem run_ask_ne_uncached_roleGrant :
    let state := (Tracked.start roleGrant.repo 60 0).run
      [.ask 7 (.canForEntity .server 5 ["game-server-start"]) (.undisturbed storedOrder),
        .setRoles 7 [] (.undisturbed storedOrder)]
    (state.rbac.ask 7 (.canForEntity .server 5 ["game-server-start"])
        (.undisturbed storedOrder)).1 = .ok true ∧
      (state.rbac.uncached.ask 7 (.canForEntity .server 5 ["game-server-start"])
        (.undisturbed storedOrder)).1 = .ok false :=
  ⟨rfl, rfl⟩

end ShadowPanel.Rbac
