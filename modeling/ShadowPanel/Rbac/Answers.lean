import ShadowPanel.Rbac.Service

namespace ShadowPanel.Rbac

open Data Domain Repositories

/-! What `CanForEntity` can answer about one name, over all orders of rows. -/

def HasAllow (name : AbilityName) (entityType : EntityType) (entityID : Nat)
    (rows : List Permission) : Prop :=
  ∃ row ∈ rows, isAllow name entityType entityID row = true

def HasForbid (name : AbilityName) (rows : List Permission) : Prop :=
  ∃ row ∈ rows, isForbid name row = true

instance (name : AbilityName) (entityType : EntityType) (entityID : Nat) (rows : List Permission) :
    Decidable (HasAllow name entityType entityID rows) :=
  inferInstanceAs (Decidable (∃ row ∈ rows, _ = true))

instance (name : AbilityName) (rows : List Permission) : Decidable (HasForbid name rows) :=
  inferInstanceAs (Decidable (∃ row ∈ rows, _ = true))

def CanAnswer (layers : Layers Permission RestrictedRole) (name : AbilityName)
    (entityType : EntityType) (entityID : Nat) : Bool → Prop
  | true => HasAllow name entityType entityID layers.first ∨
      ¬HasForbid name layers.first ∧ HasAllow name entityType entityID layers.second
  | false => HasForbid name layers.first ∨
      ¬HasAllow name entityType entityID layers.first ∧
        (HasForbid name layers.second ∨ ¬HasAllow name entityType entityID layers.second)

section

variable {entityType : EntityType}

theorem decides_allow_iff :
    Layers.Decides (named name (entityVerdict entityType entityID)) .allow rows ↔
      HasAllow name entityType entityID rows := by
  simp only [Layers.Decides, HasAllow, named_entityVerdict_eq_allow_iff]

theorem decides_forbid_iff (entityType : EntityType) (entityID : Nat) :
    Layers.Decides (named name (entityVerdict entityType entityID)) .forbid rows ↔
      HasForbid name rows := by
  simp only [Layers.Decides, HasForbid, named_entityVerdict_eq_forbid_iff]

theorem silent_iff : Layers.Silent (named name (entityVerdict entityType entityID)) rows ↔
    ¬HasAllow name entityType entityID rows ∧ ¬HasForbid name rows := by
  rw [← decides_allow_iff, ← decides_forbid_iff entityType entityID]
  constructor
  · intro silent
    constructor <;>
    · rintro ⟨row, member, decides⟩
      rw [silent row member] at decides
      contradiction
  · rintro ⟨noAllow, noForbid⟩ row member
    cases decided : named name (entityVerdict entityType entityID) row with
    | none => rfl
    | some verdict =>
      cases verdict with
      | allow => exact absurd ⟨row, member, decided⟩ noAllow
      | forbid => exact absurd ⟨row, member, decided⟩ noForbid

theorem decideEach_singleton (rows : List Permission) :
    decideEach (entityVerdict entityType entityID) (groupByAbilityName rows) [name] = true ↔
      rows.findSome? (named name (entityVerdict entityType entityID)) = some .allow := by
  rw [decideEach_eq_true_iff]
  simp [findSome?_groupByAbilityName]

variable (layers : Layers Permission RestrictedRole)

include layers

private theorem exists_order_allow_iff : (∃ order, (layers.read order).findSome?
      (named name (entityVerdict entityType entityID)) = some .allow) ↔
    CanAnswer layers name entityType entityID true := by
  rw [layers.exists_findSome?_read_eq_some, decides_allow_iff, decides_allow_iff,
    silent_iff]
  constructor
  · rintro (own | ⟨⟨_, noForbid⟩, inherited⟩)
    · exact .inl own
    · exact .inr ⟨noForbid, inherited⟩
  · rintro (own | ⟨noForbid, inherited⟩)
    · exact .inl own
    · by_cases own : HasAllow name entityType entityID layers.first
      · exact .inl own
      · exact .inr ⟨⟨own, noForbid⟩, inherited⟩

private theorem exists_order_not_allow_iff : (∃ order, (layers.read order).findSome?
      (named name (entityVerdict entityType entityID)) ≠ some .allow) ↔
    CanAnswer layers name entityType entityID false := by
  have split : (∃ order, (layers.read order).findSome?
        (named name (entityVerdict entityType entityID)) ≠ some .allow) ↔
      (∃ order, (layers.read order).findSome?
        (named name (entityVerdict entityType entityID)) = some .forbid) ∨
      ∃ order, (layers.read order).findSome?
        (named name (entityVerdict entityType entityID)) = none := by
    rw [← exists_or]
    apply exists_congr
    intro order
    rcases (layers.read order).findSome?
      (named name (entityVerdict entityType entityID)) with _ | _ | _ <;> simp
  have order : RowOrder := ⟨.kept, .kept, fun _ => .kept⟩
  rw [split, layers.exists_findSome?_read_eq_some]
  simp only [Layers.findSome?_read_eq_none, decides_forbid_iff, silent_iff]
  constructor
  · rintro ((forbid | ⟨⟨noAllow, _⟩, forbid⟩) | ⟨_, ⟨noAllow, _⟩, noInherited, _⟩)
    · exact .inl forbid
    · exact .inr ⟨noAllow, .inl forbid⟩
    · exact .inr ⟨noAllow, .inr noInherited⟩
  · rintro (forbid | ⟨noAllow, inherited⟩)
    · exact .inl (.inl forbid)
    · by_cases forbid : HasForbid name layers.first
      · exact .inl (.inl forbid)
      · by_cases inheritedForbid : HasForbid name layers.second
        · exact .inl (.inr ⟨⟨noAllow, forbid⟩, inheritedForbid⟩)
        · have noInherited := inherited.resolve_left inheritedForbid
          exact .inr ⟨order, ⟨noAllow, forbid⟩, noInherited, inheritedForbid⟩

theorem exists_order_decideEach_iff (answer : Bool) :
    (∃ order, decideEach (entityVerdict entityType entityID)
        (groupByAbilityName (layers.read order)) [name] = answer) ↔
      CanAnswer layers name entityType entityID answer := by
  cases answer with
  | true =>
    rw [← exists_order_allow_iff]
    exact exists_congr fun order => decideEach_singleton _
  | false =>
    rw [← exists_order_not_allow_iff]
    apply exists_congr
    intro order
    rw [← Bool.not_eq_true, decideEach_singleton]

end

def permissionsOf (repo : RBACRepository driver) (userID : Nat) (order : RowOrder) :
    PermissionMap :=
  groupByAbilityName ((layersFor repo userID).read order)

theorem attemptCall_eq_ok {α : Type} {fails : Call → Bool} {value result : α}
    (called : attemptCall fails call value = .ok result) : result = value := by
  unfold attemptCall at called
  split at called
  · contradiction
  · exact (Except.ok.inj called).symm

theorem attemptCall_of_not_fails {α : Type} {fails : Call → Bool} (value : α)
    (succeeds : fails call = false) : attemptCall fails call value = .ok value := by
  simp [attemptCall, succeeds]

private theorem appendRolePermissions_eq_ok {read : Read}
    (appended : appendRolePermissions repo read roles userPermissions = .ok result) :
    result = userPermissions ++ roles.flatMap fun role => ((read.order.members role).apply
        (repo.permissionRows role.id .role)).filter (admits role) := by
  induction roles generalizing userPermissions with
  | nil =>
    cases appended
    simp
  | cons role roles ih =>
    rw [appendRolePermissions] at appended
    split at appended
    · contradiction
    · rename_i rolePermissions called
      rw [attemptCall_eq_ok called] at appended
      rw [ih appended]
      simp

private theorem appendRolePermissions_of_steady {read : Read} (steady : read.Steady)
    (repo : RBACRepository driver) (roles : List RestrictedRole)
    (userPermissions : List Permission) :
    ∃ result, appendRolePermissions repo read roles userPermissions = .ok result := by
  induction roles generalizing userPermissions with
  | nil => exact ⟨userPermissions, rfl⟩
  | cons role roles ih =>
    rw [appendRolePermissions, attemptCall_of_not_fails _ (steady _)]
    exact ih _

theorem loadPermissions_eq_ok {userID : Nat} {read : Read}
    (loaded : loadPermissions repo userID read = .ok permissions) :
    permissions = permissionsOf repo userID read.order := by
  unfold loadPermissions at loaded
  split at loaded
  · contradiction
  rename_i userPermissions ownCall
  split at loaded
  · contradiction
  rename_i roles roleCall
  split at loaded
  · contradiction
  rename_i rows appended
  have all := appendRolePermissions_eq_ok appended
  rw [attemptCall_eq_ok ownCall, attemptCall_eq_ok roleCall] at all
  rw [← Except.ok.inj loaded, all]
  rfl

private theorem loadPermissions_of_steady {read : Read} (steady : read.Steady)
    (repo : RBACRepository driver) (userID : Nat) :
    loadPermissions repo userID read = .ok (permissionsOf repo userID read.order) := by
  have loaded : ∃ permissions, loadPermissions repo userID read = .ok permissions := by
    obtain ⟨rows, appended⟩ := appendRolePermissions_of_steady steady repo
      (read.order.groups.apply (repo.roleRows userID .user))
      (read.order.first.apply (repo.permissionRows userID .user))
    refine ⟨groupByAbilityName rows, ?_⟩
    rw [loadPermissions]
    simp only [attemptCall_of_not_fails _ (steady _), appended]
  obtain ⟨permissions, loaded⟩ := loaded
  rw [loaded, loadPermissions_eq_ok loaded]

namespace PermissionCache

theorem get_eq_some {cache : PermissionCache} (found : cache.get key now = some permissions) :
    cache.ttl ≠ 0 ∧ ∃ entry, cache.cache key = some entry ∧
      now ≤ entry.expiresAt ∧ entry.permissions = permissions := by
  unfold get at found
  split at found
  · contradiction
  rename_i ttl
  split at found
  · contradiction
  rename_i entry present
  split at found
  · contradiction
  rename_i live
  refine ⟨ttl, entry, present, ?_, Option.some.inj found⟩
  simpa [CacheEntry.isExpired] using live

theorem get_of_live {cache : PermissionCache} (ttl : cache.ttl ≠ 0)
    (present : cache.cache key = some entry) (live : now ≤ entry.expiresAt) :
    cache.get key now = some entry.permissions := by
  have notExpired : entry.isExpired now = false := by
    simpa [CacheEntry.isExpired] using live
  simp [get, ttl, present, notExpired]

theorem get_earlier {cache : PermissionCache} (order : now ≤ later)
    (found : cache.get key later = some permissions) : cache.get key now = some permissions := by
  obtain ⟨ttl, entry, present, live, rfl⟩ := get_eq_some found
  exact get_of_live ttl present (Int.le_trans order live)

private theorem exists_wait_get_eq_none (cache : PermissionCache) (key : CacheKey) (now : Int) :
    ∃ wait : Nat, cache.get key (now + wait) = none := by
  cases found : cache.get key now with
  | none => exact ⟨0, by simpa using found⟩
  | some permissions =>
    obtain ⟨_, entry, present, live, _⟩ := get_eq_some found
    refine ⟨(entry.expiresAt - now).toNat + 1, ?_⟩
    cases later : cache.get key (now + ((entry.expiresAt - now).toNat + 1 : Nat)) with
    | none => rfl
    | some _ =>
      obtain ⟨_, other, otherPresent, otherLive, _⟩ := get_eq_some later
      rw [present] at otherPresent
      cases otherPresent
      omega

@[simp] theorem ttl_set (cache : PermissionCache) (key : CacheKey) (permissions : PermissionMap)
    (now : Int) : (cache.set key permissions now).ttl = cache.ttl := by
  unfold set
  split <;> rfl

@[simp] theorem get_delete_self (cache : PermissionCache) (key : CacheKey) (now : Int) :
    (cache.delete key).get key now = none := by
  simp [get, delete]

theorem get_set_self {cache : PermissionCache}
    (hit : (cache.set key permissions now).get key later = some found) (order : now ≤ later) :
    0 < cache.ttl ∧ found = permissions := by
  obtain ⟨ttl, entry, present, live, rfl⟩ := get_eq_some hit
  rw [ttl_set] at ttl
  simp only [set, if_neg ttl, if_true, Option.some.injEq] at present
  subst present
  simp only at live
  exact ⟨by omega, rfl⟩

theorem cache_set_eq_some {cache : PermissionCache}
    (present : (cache.set key permissions now).cache other = some entry) :
    entry = ⟨permissions, now + cache.ttl⟩ ∨ cache.cache other = some entry := by
  unfold set at present
  split at present
  · exact .inr present
  · simp only at present
    split at present
    · exact .inl (Option.some.inj present).symm
    · exact .inr present

end PermissionCache

namespace RBAC

def Current (rbac : RBAC driver) (userID : Nat) : Prop :=
  ∀ permissions, rbac.cache.get (userKey userID) rbac.now = some permissions →
    ∃ order, permissions = permissionsOf rbac.repo userID order

theorem getAllPermissionsForUser_cases (rbac : RBAC driver) (userID : Nat) (read : Read) :
    (∃ permissions, rbac.cache.get (userKey userID) (rbac.now + read.wait) = some permissions ∧
      rbac.getAllPermissionsForUser userID read =
        (.ok permissions, { rbac with now := rbac.now + read.wait })) ∨
    (rbac.cache.get (userKey userID) (rbac.now + read.wait) = none ∧
      rbac.getAllPermissionsForUser userID read =
        (.ok (permissionsOf rbac.repo userID read.order),
          { rbac with
            now := rbac.now + read.wait + read.delay
            cache := rbac.cache.set (userKey userID) (permissionsOf rbac.repo userID read.order)
              (rbac.now + read.wait + read.delay) })) ∨
    (¬read.Steady ∧ ∃ failure, rbac.getAllPermissionsForUser userID read =
        (.error failure, { rbac with now := rbac.now + read.wait + read.delay })) := by
  unfold getAllPermissionsForUser
  cases found : rbac.cache.get (userKey userID) (rbac.now + read.wait) with
  | some permissions => exact .inl ⟨permissions, rfl, by simp [found]⟩
  | none =>
    cases loaded : loadPermissions rbac.repo userID read with
    | ok permissions =>
      rw [loadPermissions_eq_ok loaded]
      exact .inr (.inl ⟨rfl, by simp [found]⟩)
    | error failure =>
      refine .inr (.inr ⟨fun steady => ?_, failure, by simp [found]⟩)
      rw [loadPermissions_of_steady steady] at loaded
      contradiction

theorem query_of_ok {rbac after : RBAC driver} {read : Read}
    (decision : PermissionMap → Except Failure Bool)
    (passed : rbac.getAllPermissionsForUser userID read = (.ok permissions, after)) :
    rbac.query userID read decision = (decision permissions, after) := by
  simp [query, passed]

private theorem exists_query_iff (rbac : RBAC driver) (userID : Nat)
    (decision : PermissionMap → Except Failure Bool) (result : Except Failure Bool) :
    (∃ read : Read, read.Steady ∧ (rbac.query userID read decision).1 = result) ↔
      (∃ order, decision (permissionsOf rbac.repo userID order) = result) ∨
        ∃ permissions, rbac.cache.get (userKey userID) rbac.now = some permissions ∧
          decision permissions = result := by
  constructor
  · rintro ⟨read, steady, answered⟩
    rcases rbac.getAllPermissionsForUser_cases userID read with
      ⟨permissions, hit, passed⟩ | ⟨_, passed⟩ | ⟨unsteady, _⟩
    · rw [query_of_ok decision passed] at answered
      exact .inr ⟨permissions, PermissionCache.get_earlier (by omega) hit, answered⟩
    · rw [query_of_ok decision passed] at answered
      exact .inl ⟨read.order, answered⟩
    · exact absurd steady unsteady
  · rintro (⟨order, answered⟩ | ⟨permissions, hit, answered⟩)
    · obtain ⟨wait, miss⟩ :=
        rbac.cache.exists_wait_get_eq_none (userKey userID) rbac.now
      let read : Read := { wait, delay := 0, order, fails := fun _ => false }
      refine ⟨read, fun _ => rfl, ?_⟩
      rcases rbac.getAllPermissionsForUser_cases userID read with
        ⟨_, hit, _⟩ | ⟨_, passed⟩ | ⟨unsteady, _⟩
      · rw [miss] at hit
        contradiction
      · rw [query_of_ok decision passed]
        exact answered
      · exact absurd (fun _ => rfl) unsteady
    · let read : Read :=
        { wait := 0
          delay := 0
          order := ⟨.kept, .kept, fun _ => .kept⟩
          fails := fun _ => false }
      refine ⟨read, fun _ => rfl, ?_⟩
      have hitNow : rbac.cache.get (userKey userID) (rbac.now + read.wait) = some permissions := by
        simpa [read] using hit
      rcases rbac.getAllPermissionsForUser_cases userID read with
        ⟨found, hitFound, passed⟩ | ⟨miss, _⟩ | ⟨unsteady, _⟩
      · rw [hitNow] at hitFound
        cases hitFound
        rw [query_of_ok decision passed]
        exact answered
      · rw [hitNow] at miss
        contradiction
      · exact absurd (fun _ => rfl) unsteady

theorem exists_query_iff_of_current {rbac : RBAC driver} (current : rbac.Current userID)
    (decision : PermissionMap → Except Failure Bool) (result : Except Failure Bool) :
    (∃ read : Read, read.Steady ∧ (rbac.query userID read decision).1 = result) ↔
      ∃ order, decision (permissionsOf rbac.repo userID order) = result := by
  rw [exists_query_iff]
  refine or_iff_left_of_imp ?_
  rintro ⟨permissions, hit, answered⟩
  obtain ⟨order, rfl⟩ := current permissions hit
  exact ⟨order, answered⟩

/-- `CanForEntity` about one name can give this answer now or later, when no
repository call fails. -/
def MayAnswer (rbac : RBAC driver) (userID : Nat) (entityType : EntityType) (entityID : Nat)
    (name : AbilityName) (answer : Bool) : Prop :=
  ∃ read : Read, read.Steady ∧
    (rbac.canForEntity userID entityType entityID [name] read).1 = .ok answer

theorem mayAnswer_iff_of_current {rbac : RBAC driver} (current : rbac.Current userID)
    (entityType : EntityType) (entityID : Nat) (name : AbilityName) (answer : Bool) :
    rbac.MayAnswer userID entityType entityID name answer ↔
      CanAnswer (layersFor rbac.repo userID) name entityType entityID answer := by
  unfold MayAnswer canForEntity
  rw [exists_query_iff_of_current current, ← exists_order_decideEach_iff]
  simp only [Except.ok.injEq]
  rfl

theorem exists_answer_of_steady (rbac : RBAC driver) (userID : Nat) (entityType : EntityType)
    (entityID : Nat) (abilities : List AbilityName) {read : Read} (steady : read.Steady) :
    ∃ answer after, rbac.canForEntity userID entityType entityID abilities read =
      (.ok answer, after) := by
  rcases rbac.getAllPermissionsForUser_cases userID read with
    ⟨_, _, passed⟩ | ⟨_, passed⟩ | ⟨unsteady, _⟩
  · exact ⟨_, _, query_of_ok _ passed⟩
  · exact ⟨_, _, query_of_ok _ passed⟩
  · exact absurd steady unsteady

theorem steady_answers_iff (rbac : RBAC driver) (userID : Nat) (entityType : EntityType)
    (entityID : Nat) (name : AbilityName) (answer : Bool) :
    (∀ read : Read, read.Steady →
        (rbac.canForEntity userID entityType entityID [name] read).1 = .ok answer) ↔
      ¬rbac.MayAnswer userID entityType entityID name !answer := by
  constructor
  · rintro always ⟨read, steady, answered⟩
    rw [always read steady] at answered
    have same := Except.ok.inj answered
    cases answer <;> contradiction
  · intro never read steady
    obtain ⟨given, after, answered⟩ :=
      rbac.exists_answer_of_steady userID entityType entityID [name] steady
    rw [answered]
    by_cases same : given = answer
    · rw [same]
    · refine absurd ⟨read, steady, ?_⟩ never
      rw [answered, Bool.eq_not.mpr same]

end RBAC

end ShadowPanel.Rbac
