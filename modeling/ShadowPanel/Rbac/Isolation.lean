import ShadowPanel.Rbac.Mutation

namespace ShadowPanel.Rbac

open Data Domain Repositories

/-! Grants and revocations against the answers about other users, entities and
names, while the store returns its rows in one order. -/

/-- No order of the rows grants the name on the entity. -/
def Refused (own inherited : List Permission) (name : AbilityName) (entityType : EntityType)
    (entityID : Nat) : Prop :=
  ¬HasAllow name entityType entityID own ∧
    (HasForbid name own ∨ ¬HasAllow name entityType entityID inherited)

instance (own inherited : List Permission) (name : AbilityName) (entityType : EntityType)
    (entityID : Nat) : Decidable (Refused own inherited name entityType entityID) :=
  instDecidableAnd

section

variable (layers : Layers Permission RestrictedRole) {name : AbilityName}
  {entityType : EntityType} {entityID : Nat}

theorem decideEach_of_refused
    (refused : Refused layers.first layers.second name entityType entityID) (order : RowOrder) :
    decideEach (entityVerdict entityType entityID) (groupByAbilityName (layers.read order))
      [name] = false := by
  rw [← Bool.not_eq_true]
  intro granted
  rcases (exists_order_decideEach_iff layers true).mp ⟨order, granted⟩ with
    own | ⟨noForbid, inherited⟩
  · exact refused.1 own
  · exact refused.2.elim noForbid fun absent => absent inherited

def decisive (name : AbilityName) (entityType : EntityType) (entityID : Nat) (row : Permission) :
    Bool :=
  (named name (entityVerdict entityType entityID) row).isSome

theorem decisive_eq_true_iff : decisive name entityType entityID row = true ↔
    isAllow name entityType entityID row = true ∨ isForbid name row = true := by
  rw [← named_entityVerdict_eq_allow_iff, decisive]
  have forbids : named name (entityVerdict entityType entityID) row = some .forbid ↔ _ :=
    named_entityVerdict_eq_forbid_iff
  rw [← forbids]
  rcases named name (entityVerdict entityType entityID) row with _ | _ | _ <;> simp

private theorem decideEach_congr {order : RowOrder} (stable : order.first.Stable)
    {first : List Permission}
    (same : first.filter (decisive name entityType entityID) =
      layers.first.filter (decisive name entityType entityID)) :
    decideEach (entityVerdict entityType entityID)
        (groupByAbilityName ({ layers with first }.read order)) [name] =
      decideEach (entityVerdict entityType entityID)
        (groupByAbilityName (layers.read order)) [name] := by
  rw [Bool.eq_iff_iff, decideEach_singleton, decideEach_singleton, Layers.findSome?_read,
    Layers.findSome?_read]
  simp only [stable.findSome?_apply_congr same]

theorem filter_extended {after : List Permission}
    (extended : RBACRepository.ExtendedBy names entityID entityType forbidden before after)
    (hidden : ∀ row, row.forbidden = forbidden → isExactly names entityID entityType row = true →
      decisive name otherType otherID row = false) :
    after.filter (decisive name otherType otherID) =
      before.filter (decisive name otherType otherID) := by
  obtain ⟨added, rfl, sound, _⟩ := extended
  have silent : added.filter (decisive name otherType otherID) = [] := by
    simpa [List.filter_eq_nil_iff] using
      fun row member => hidden row (sound row member).1 (sound row member).2
  rw [List.filter_append, silent, List.append_nil]

end

namespace RBAC

/-- What is cached for the user was read from the present rows in the order. -/
def CurrentIn (order : RowOrder) (rbac : RBAC driver) (userID : Nat) : Prop :=
  Holds (· = permissionsOf rbac.repo userID order) rbac userID

def Keeps (order : RowOrder) (before after : RBAC driver) (userID : Nat) (entityType : EntityType)
    (entityID : Nat) (name : AbilityName) : Prop :=
  ∀ read later : Read, read.Steady → later.Steady → read.order = order → later.order = order →
    (after.canForEntity userID entityType entityID [name] later).1 =
      (before.canForEntity userID entityType entityID [name] read).1

section

variable {order : RowOrder} {entityType : EntityType} {entityID : Nat} {name : AbilityName}

theorem canForEntity_of_holds {maps : PermissionMap → Prop} {rbac : RBAC driver}
    (held : Holds maps rbac userID) {read : Read}
    (load : maps (permissionsOf rbac.repo userID read.order)) (steady : read.Steady)
    (settled : ∀ permissions, maps permissions →
      decideEach (entityVerdict entityType entityID) permissions [name] = answer) :
    (rbac.canForEntity userID entityType entityID [name] read).1 = .ok answer := by
  obtain ⟨given, after, answered⟩ :=
    rbac.exists_answer_of_steady userID entityType entityID [name] steady
  obtain ⟨permissions, loaded, decided⟩ :=
    rbac.canForEntity_eq_ok userID read held load (congrArg Prod.fst answered)
  rw [answered, ← decided, settled permissions loaded]

theorem CurrentIn.canForEntity {rbac : RBAC driver} (current : rbac.CurrentIn order userID)
    {read : Read} (steady : read.Steady) (inOrder : read.order = order) :
    (rbac.canForEntity userID entityType entityID [name] read).1 =
      .ok (decideEach (entityVerdict entityType entityID)
        (permissionsOf rbac.repo userID order) [name]) := by
  subst inOrder
  refine canForEntity_of_holds current rfl steady ?_
  rintro _ rfl
  rfl

theorem keeps_of_holds (maps : PermissionMap → Prop) {before after : RBAC driver}
    (current : before.CurrentIn order userID) (held : Holds maps after userID)
    (load : maps (permissionsOf after.repo userID order))
    (settled : ∀ permissions, maps permissions →
      decideEach (entityVerdict entityType entityID) permissions [name] =
      decideEach (entityVerdict entityType entityID) (permissionsOf before.repo userID order)
      [name]) :
    Keeps order before after userID entityType entityID name := by
  intro read later steady laterSteady inOrder sameOrder
  rw [canForEntity_of_holds held (sameOrder ▸ load) laterSteady settled,
    current.canForEntity steady inOrder]

theorem permissionsOf_congr (same : layersFor after userID = layersFor before userID)
    (order : RowOrder) :
    permissionsOf after userID order = permissionsOf before userID order := by
  rw [permissionsOf, same]
  rfl

theorem keeps_of_sameEntry {before after : RBAC driver} (current : before.CurrentIn order userID)
    (same : layersFor after.repo userID = layersFor before.repo userID)
    (entry : after.cache.cache (userKey userID) = before.cache.cache (userKey userID))
    (ttl : after.cache.ttl = before.cache.ttl) (now : before.now ≤ after.now) :
    Keeps order before after userID entityType entityID name := by
  refine keeps_of_holds (· = permissionsOf before.repo userID order) current ?_
    (permissionsOf_congr same order) ?_
  · intro permissions found
    obtain ⟨nonzero, stored, present, live, rfl⟩ := PermissionCache.get_eq_some found
    rw [entry] at present
    rw [ttl] at nonzero
    exact current _ (PermissionCache.get_of_live nonzero present (Int.le_trans now live))
  · rintro _ rfl
    rfl

end

section

variable (rbac : RBAC driver) (userID entityID : Nat) (entityType : EntityType)
  (names : List AbilityName)

/-- The user has no Forbidden row of the name for exactly the entity. -/
def Spared (name : AbilityName) : Prop :=
  ∀ row ∈ rbac.repo.permissionRows userID .user, isForbid name row = true →
    isExactly names entityID entityType row = false

instance (name : AbilityName) : Decidable (rbac.Spared userID entityID entityType names name) :=
  inferInstanceAs (Decidable (∀ row ∈ _, _))

def keptLayers : Layers Permission RestrictedRole :=
  { layersFor rbac.repo userID with first := keptRows rbac.repo userID names entityID entityType }

/-- A grant shows nowhere else: it deletes no Forbidden row of the name, or the
rows that stay refuse the name on the other entity. -/
def GrantHidden (otherType : EntityType) (otherID : Nat) (name : AbilityName) : Prop :=
  rbac.Spared userID entityID entityType names name ∨
    Refused (keptRows rbac.repo userID names entityID entityType) (rbac.inheritedRows userID)
      name otherType otherID

/-- A revocation shows nowhere else.  If the rows that stay can still grant the
name here, so that it adds a Forbidden row, the name is refused on the other entity
before; and if they can refuse it, or a failed attempt can leave what it read in
between in the cache, it deletes as a grant does. -/
def RevocationHidden (otherType : EntityType) (otherID : Nat) (name : AbilityName) : Prop :=
  (CanAnswer (rbac.keptLayers userID entityID entityType names) name entityType entityID true →
    Refused (rbac.repo.permissionRows userID .user) (rbac.inheritedRows userID) name otherType
      otherID) ∧
  (CanAnswer (rbac.keptLayers userID entityID entityType names) name entityType entityID false ∨
      0 < rbac.cache.ttl →
    rbac.GrantHidden userID entityID entityType names otherType otherID name)

variable {rbac userID entityID entityType names} {otherType : EntityType} {otherID : Nat}
  {name : AbilityName} (apart : ¬(otherType = entityType ∧ otherID = entityID) ∨ name ∉ names)

theorem spared_of_not_mem (notNamed : name ∉ names) :
    rbac.Spared userID entityID entityType names name := by
  intro row _ forbids
  exact Bool.eq_false_iff.mpr fun onEntity =>
    notNamed (isNamed_of_isExactly onEntity (isNamed_of_isForbid forbids))

include apart

private theorem filter_kept (spared : rbac.Spared userID entityID entityType names name) :
    (keptRows rbac.repo userID names entityID entityType).filter
        (decisive name otherType otherID) =
      (rbac.repo.permissionRows userID .user).filter (decisive name otherType otherID) := by
  rw [keptRows, List.filter_filter]
  refine List.filter_congr fun row member => ?_
  cases decides : decisive name otherType otherID row with
  | false => rfl
  | true =>
    have stays : isExactly names entityID entityType row = false := by
      rcases decisive_eq_true_iff.mp decides with allows | forbids
      · exact Bool.eq_false_iff.mpr fun onEntity =>
          not_isAllow_of_isExactly apart onEntity allows
      · exact spared row member forbids
    rw [stays]
    rfl

private theorem filter_granted :
    ((rbac.granted userID entityID entityType names).repo.permissionRows
        userID .user).filter (decisive name otherType otherID) =
      (keptRows rbac.repo userID names entityID entityType).filter
        (decisive name otherType otherID) := by
  refine filter_extended granted_rows fun row permits onEntity => ?_
  rw [Bool.eq_false_iff, ne_eq, decisive_eq_true_iff]
  rintro (allows | forbids)
  · exact not_isAllow_of_isExactly apart onEntity allows
  · simp [isForbid, permits] at forbids

omit apart in
private theorem Revoked.filter_rows
    (revoked : rbac.Revoked userID entityID entityType names maps forbidNames after)
    (spared : name ∉ forbidNames) :
    (after.repo.permissionRows userID .user).filter (decisive name otherType otherID) =
      (keptRows rbac.repo userID names entityID entityType).filter
        (decisive name otherType otherID) := by
  refine filter_extended revoked.rows fun row forbidden onEntity => ?_
  rw [Bool.eq_false_iff, ne_eq, decisive_eq_true_iff]
  rintro (allows | forbids)
  · simp [isAllow, forbidden] at allows
  · exact spared (isNamed_of_isExactly onEntity (isNamed_of_isForbid forbids))

private theorem GrantHidden.refused_before
    (refused : Refused (keptRows rbac.repo userID names entityID entityType)
      (rbac.inheritedRows userID) name otherType otherID) :
    Refused (rbac.repo.permissionRows userID .user) (rbac.inheritedRows userID) name otherType
      otherID :=
  ⟨fun own => refused.1 ((hasAllow_kept_iff apart).mpr own),
    refused.2.imp_left hasForbid_of_kept⟩

theorem GrantHidden.settled {order : RowOrder} (stable : order.first.Stable)
    (hidden : rbac.GrantHidden userID entityID entityType names otherType otherID name)
    {first : List Permission}
    (same : first.filter (decisive name otherType otherID) =
      (keptRows rbac.repo userID names entityID entityType).filter
      (decisive name otherType otherID)) :
    decideEach (entityVerdict otherType otherID)
        (groupByAbilityName ({ layersFor rbac.repo userID with first }.read order)) [name] =
      decideEach (entityVerdict otherType otherID)
        (permissionsOf rbac.repo userID order) [name] := by
  rcases hidden with spared | refused
  · exact decideEach_congr (layersFor rbac.repo userID) stable
      (same.trans (filter_kept apart spared))
  · have kept := decideEach_congr (rbac.keptLayers userID entityID entityType names) stable same
    refine kept.trans ?_
    rw [decideEach_of_refused (rbac.keptLayers userID entityID entityType names) refused]
    exact (decideEach_of_refused (layersFor rbac.repo userID)
      (GrantHidden.refused_before apart refused) order).symm

private theorem allow_keeps {order : RowOrder} (stable : order.first.Stable)
    (current : rbac.CurrentIn order userID)
    (hidden : rbac.GrantHidden userID entityID entityType names otherType otherID name)
    (attempt : Attempt) :
    Keeps order rbac
      (rbac.allowUserAbilitiesForEntity userID entityID entityType names attempt).2
      userID otherType otherID name := by
  rcases rbac.allowUserAbilitiesForEntity_cases userID entityID entityType names
      attempt with result | ⟨failure, result | result⟩ <;> rw [result]
  · refine keeps_of_holds
      (· = permissionsOf (rbac.granted userID entityID entityType names).repo userID order)
      current
      (holds_forget _
        { rbac with repo := rbac.allowedRepo userID entityID entityType names } userID) rfl ?_
    rintro _ rfl
    rw [permissionsOf, granted_layers]
    exact hidden.settled apart stable (filter_granted apart)
  · exact keeps_of_sameEntry current rfl rfl rfl (Int.le_refl _)
  · refine keeps_of_holds (· = permissionsOf rbac.repo userID order) current
      (holds_forget _ rbac userID) rfl ?_
    rintro _ rfl
    rfl

theorem Revoked.settled {order : RowOrder} (stable : order.first.Stable)
    (revoked : rbac.Revoked userID entityID entityType names
      (· = permissionsOf (rbac.revokedRepo userID entityID entityType names) userID order)
      forbidNames after)
    (hidden : name ∈ names →
      rbac.RevocationHidden userID entityID entityType names otherType otherID name) :
    decideEach (entityVerdict otherType otherID) (permissionsOf after.repo userID order) [name] =
      decideEach (entityVerdict otherType otherID)
        (permissionsOf rbac.repo userID order) [name] := by
  rw [permissionsOf, revoked.layers]
  have checked (listed : name ∈ names) : CanAnswer
      (rbac.keptLayers userID entityID entityType names) name entityType entityID
      (decide (name ∈ forbidNames)) :=
    (revoked.loaded fun _ load => ⟨order, load⟩).canAnswer listed
  by_cases collected : name ∈ forbidNames
  · have listed := revoked.sublist.subset collected
    rw [decide_eq_true collected] at checked
    have refused := (hidden listed).1 (checked listed)
    refine (decideEach_of_refused { layersFor rbac.repo userID with
      first := after.repo.permissionRows userID .user } ⟨?_, .inl ?_⟩ order).trans
      (decideEach_of_refused (layersFor rbac.repo userID) refused order).symm
    · rw [hasAllow_of_extendedBy_forbid revoked.rows, hasAllow_kept_iff apart]
      exact refused.1
    · exact (hasForbid_of_extendedBy_forbid revoked.rows).mpr (.inr collected)
  · refine GrantHidden.settled apart stable ?_ (revoked.filter_rows collected)
    by_cases listed : name ∈ names
    · rw [decide_eq_false collected] at checked
      exact (hidden listed).2 (.inl (checked listed))
    · exact .inl (spared_of_not_mem listed)

private theorem revokeOrForbid_keeps {order : RowOrder} (stable : order.first.Stable)
    (current : rbac.CurrentIn order userID)
    (hidden : name ∈ names →
      rbac.RevocationHidden userID entityID entityType names otherType otherID name)
    {attempt : Attempt} (inOrder : ∀ check, (attempt.checks check).order = order) :
    Keeps order rbac
      (rbac.revokeOrForbidUserAbilitiesForEntity userID entityID entityType names attempt).2
      userID otherType otherID name := by
  rcases revokeOrForbid_cases attempt
      (· = permissionsOf (rbac.revokedRepo userID entityID entityType names) userID order)
      (fun check => congrArg _ (inOrder check)) with
    ⟨after, forbidNames, result, revoked⟩ | ⟨after, failure, result, observed⟩ <;>
    rw [result]
  · refine keeps_of_holds (· = permissionsOf after.repo userID order) current ?_ rfl ?_
    · intro permissions found
      obtain ⟨_, load, repo⟩ := revoked.entry permissions found
      rw [load, repo]
    · rintro _ rfl
      exact revoked.settled apart stable hidden
  · refine keeps_of_holds (fun permissions => permissions = permissionsOf rbac.repo userID order ∨
      0 < rbac.cache.ttl ∧ permissions =
        permissionsOf (rbac.revokedRepo userID entityID entityType names) userID order)
      current ?_ (.inl (by rw [observed.repo])) ?_
    · intro permissions found
      exact (observed.entry permissions found).imp_left (current permissions)
    · rintro _ (rfl | ⟨ttl, rfl⟩)
      · rfl
      rw [permissionsOf, revokedRepo, layersFor_revoke]
      refine GrantHidden.settled apart stable ?_ rfl
      by_cases listed : name ∈ names
      · exact (hidden listed).2 (.inr ttl)
      · exact .inl (spared_of_not_mem listed)

end

section

variable {rbac : RBAC driver} {order : RowOrder} (different : other ≠ userID)
  (current : rbac.CurrentIn order other)

include different current

private theorem allow_keeps_of_ne (attempt : Attempt) : Keeps order rbac
    (rbac.allowUserAbilitiesForEntity userID entityID entityType names attempt).2
    other otherType otherID name := by
  have entry : (rbac.forget userID).cache.cache (userKey other) =
      rbac.cache.cache (userKey other) := by
    simp [forget, PermissionCache.delete, userKey_ne different]
  rcases rbac.allowUserAbilitiesForEntity_cases userID entityID entityType names
      attempt with result | ⟨failure, result | result⟩ <;> rw [result]
  · exact keeps_of_sameEntry current (granted_otherLayers different) entry rfl (Int.le_refl _)
  · exact keeps_of_sameEntry current rfl rfl rfl (Int.le_refl _)
  · exact keeps_of_sameEntry current rfl entry rfl (Int.le_refl _)

private theorem revokeOrForbid_keeps_of_ne (attempt : Attempt) : Keeps order rbac
    (rbac.revokeOrForbidUserAbilitiesForEntity userID entityID entityType names attempt).2
    other otherType otherID name := by
  rcases revokeOrForbid_cases attempt (fun _ => True) (fun _ => trivial) with
    ⟨after, _, result, revoked⟩ | ⟨after, _, result, observed⟩ <;> rw [result]
  · exact keeps_of_sameEntry current (revoked.otherLayers other different)
      (revoked.otherEntries other different) revoked.ttl revoked.now
  · exact keeps_of_sameEntry current (by rw [observed.repo]) (observed.others other different)
      observed.ttl observed.now

end

section

variable {rbac : RBAC driver} {userID entityID : Nat} {entityType : EntityType}
  {names : List AbilityName} {otherType : EntityType} {otherID : Nat} {name : AbilityName}

/-- First the Forbidden rows that a grant deletes, then those that allow the name
on the other entity. -/
def deletedFirst (names : List AbilityName) (entityID : Nat) (entityType : EntityType)
    (name : AbilityName) (otherType : EntityType) (otherID : Nat) : Reordering Permission :=
  .after (.front fun row => isForbid name row && isExactly names entityID entityType row)
    (.front (isAllow name otherType otherID))

private theorem findSome?_deletedFirst_of_deleted
    (deletes : ¬rbac.Spared userID entityID entityType names name) :
    ((deletedFirst names entityID entityType name otherType otherID).apply
      (rbac.repo.permissionRows userID .user)).findSome?
        (named name (entityVerdict otherType otherID)) = some .forbid := by
  refine Reordering.findSome?_front ?_ ?_
  · intro row _ selected verdict decided
    rw [named_entityVerdict_eq_forbid_iff.mpr (Bool.and_eq_true_iff.mp selected).1] at decided
    exact (Option.some.inj decided).symm
  · obtain ⟨row, deleted⟩ := Classical.not_forall.mp deletes
    simp only [Classical.not_imp, Bool.not_eq_false] at deleted
    obtain ⟨member, forbids, onEntity⟩ := deleted
    exact ⟨row, (Reordering.mem_apply _ _ _).mpr member, by simp [forbids, onEntity],
      named_entityVerdict_eq_forbid_iff.mpr forbids⟩

private theorem findSome?_deletedFirst_of_allowed
    (absent : ∀ row ∈ rows, isForbid name row = true →
      isExactly names entityID entityType row = false)
    (allowed : HasAllow name otherType otherID rows) :
    ((deletedFirst names entityID entityType name otherType otherID).apply rows).findSome?
      (named name (entityVerdict otherType otherID)) = some .allow := by
  rw [deletedFirst, Reordering.after, Reordering.front_of_none_selected]
  · refine Reordering.findSome?_front ?_ ?_
    · intro row _ selected verdict decided
      rw [named_entityVerdict_eq_allow_iff.mpr selected] at decided
      exact (Option.some.inj decided).symm
    · obtain ⟨row, member, allows⟩ := allowed
      exact ⟨row, member, allows, named_entityVerdict_eq_allow_iff.mpr allows⟩
  · intro row member
    have stored := (Reordering.mem_apply _ _ _).mp member
    cases forbids : isForbid name row with
    | false => rfl
    | true => rw [absent row stored forbids]; rfl

private theorem not_exact_of_granted
    (member : row ∈ (rbac.granted userID entityID entityType names).repo.permissionRows userID
      .user) (forbids : isForbid name row = true) :
    isExactly names entityID entityType row = false := by
  have extended : RBACRepository.ExtendedBy names entityID entityType false
      (keptRows rbac.repo userID names entityID entityType) _ := granted_rows
  obtain ⟨added, rows, sound, _⟩ := extended
  rw [rows] at member
  rcases List.mem_append.mp member with kept | new
  · exact (mem_keptRows.mp kept).2
  · simp [isForbid, (sound row new).1] at forbids

private theorem exists_order_grant_shows
    (apart : ¬(otherType = entityType ∧ otherID = entityID) ∨ name ∉ names)
    (shown : ¬rbac.GrantHidden userID entityID entityType names otherType otherID name) :
    ∃ order : RowOrder, order.first.Stable ∧
      decideEach (entityVerdict otherType otherID) (permissionsOf rbac.repo userID order)
        [name] = false ∧
      decideEach (entityVerdict otherType otherID)
        (permissionsOf (rbac.granted userID entityID entityType names).repo userID order)
        [name] = true := by
  obtain ⟨deletes, grants⟩ := not_or.mp shown
  have allowed : HasAllow name otherType otherID
      ((rbac.granted userID entityID entityType names).repo.permissionRows userID .user) ↔
      HasAllow name otherType otherID (keptRows rbac.repo userID names entityID entityType) :=
    hasAllow_of_extendedBy_allow_iff granted_rows apart
  by_cases own : HasAllow name otherType otherID
    (keptRows rbac.repo userID names entityID entityType)
  · refine ⟨⟨deletedFirst names entityID entityType name otherType otherID, .kept, fun _ => .kept⟩,
      (Reordering.stable_front _).after (Reordering.stable_front _), ?_, ?_⟩
    · rw [← Bool.not_eq_true, permissionsOf, decideEach_singleton,
        Layers.findSome?_read_of_first _ _ (findSome?_deletedFirst_of_deleted deletes)]
      simp
    · rw [permissionsOf, granted_layers, decideEach_singleton]
      exact Layers.findSome?_read_of_first _ _ (findSome?_deletedFirst_of_allowed
        (fun _ => not_exact_of_granted) (allowed.mpr own))
  · have inherited : ¬HasForbid name (keptRows rbac.repo userID names entityID entityType) ∧
        HasAllow name otherType otherID (rbac.inheritedRows userID) := by
      simpa [Refused, own] using grants
    let layers : Layers Permission RestrictedRole :=
      { layersFor rbac.repo userID with
        first := (rbac.granted userID entityID entityType names).repo.permissionRows userID .user }
    have silent : Layers.Silent (named name (entityVerdict otherType otherID)) layers.first :=
      silent_iff.mpr ⟨fun allows => own (allowed.mp allows), fun forbids =>
        inherited.1 ((hasForbid_of_extendedBy_allow granted_rows).mp forbids)⟩
    refine ⟨layers.favouring (named name (entityVerdict otherType otherID)) .allow,
      Reordering.stable_front _, ?_, ?_⟩
    · refine decideEach_of_refused (layersFor rbac.repo userID) ⟨?_, .inl ?_⟩ _
      · exact fun before => own ((hasAllow_kept_iff apart).mpr before)
      · obtain ⟨row, deleted⟩ := Classical.not_forall.mp deletes
        simp only [Classical.not_imp] at deleted
        exact ⟨row, deleted.1, deleted.2.1⟩
    · rw [permissionsOf, granted_layers, decideEach_singleton]
      exact layers.findSome?_read_favouring_second silent (decides_allow_iff.mpr inherited.2)

end

section

variable (rbac : RBAC driver) (userID entityID : Nat) (entityType : EntityType)
  (names : List AbilityName) (other : Nat) (otherType : EntityType) (otherID : Nat)
  (name : AbilityName)

/-- Over every cache that holds nothing stale and every order of rows that does not
depend on the others, the call keeps the answer. -/
def Isolated (call : RBAC driver → Attempt → RBAC driver) : Prop :=
  ∀ (cache : PermissionCache) (now : Int) (order : RowOrder) (attempt : Attempt),
    cache.ttl = rbac.cache.ttl → order.first.Stable →
    (∀ check, (attempt.checks check).order = order) →
    CurrentIn order { rbac with cache, now } other →
    Keeps order { rbac with cache, now } (call { rbac with cache, now } attempt) other otherType
      otherID name

variable {rbac userID entityID entityType names otherType otherID name} in
private theorem grantHidden_of_isolated
    (apart : ¬(otherType = entityType ∧ otherID = entityID) ∨ name ∉ names)
    (isolated : rbac.Isolated userID otherType otherID name fun before attempt =>
      (before.allowUserAbilitiesForEntity userID entityID entityType names attempt).2) :
    rbac.GrantHidden userID entityID entityType names otherType otherID name := by
  refine Classical.byContradiction fun shown => ?_
  obtain ⟨order, stable, before, after⟩ := exists_order_grant_shows apart shown
  have current : (rbac.forget userID).CurrentIn order userID := holds_forget _ rbac userID
  have grantedCurrent :
      ((rbac.forget userID).granted userID entityID entityType names).CurrentIn order userID :=
    holds_forget _ { rbac.forget userID with
      repo := rbac.allowedRepo userID entityID entityType names } userID
  have steady := Read.steady_undisturbed order
  have kept : Keeps order (rbac.forget userID) ((rbac.forget userID).allowUserAbilitiesForEntity
      userID entityID entityType names (.undisturbed order)).2 userID otherType otherID name :=
    isolated (rbac.forget userID).cache rbac.now order (.undisturbed order) rfl stable
      (fun _ => rfl) current
  rw [(rbac.forget userID).allowUserAbilitiesForEntity_of_steady userID entityID entityType names
    (.undisturbed order) (fun _ => rfl) rfl] at kept
  have same := kept _ _ steady steady rfl rfl
  rw [grantedCurrent.canForEntity steady rfl, current.canForEntity steady rfl] at same
  have impossible : true = false := after.symm.trans ((Except.ok.inj same).trans before)
  contradiction

def roleGrant : RBAC .inMemory where
  repo :=
    .ofRows [⟨1, "operator", none, none, none⟩] [⟨1, 1, 7, .user, none, none, none⟩]
      [⟨1, "game-server-start", none, none, none, false, none, none⟩]
      [⟨1, 1, some 1, some .role, false, none, none⟩] (by decide)
  cache := .new 0
  now := 0

end

end RBAC

end ShadowPanel.Rbac
