import ShadowPanel.Rbac.Mutation

namespace ShadowPanel.Rbac

open Data Domain Repositories List

/-! When a decision does not depend on the order in which rows are read. -/

section

variable (layers : Layers Permission RestrictedRole)
  (verdict : Permission → Option Verdict) (abilities : List AbilityName)

/-- Some order allows every name: the user's own rows allow it or stay silent
and, in one sequence of the roles, the first role that decides it can allow it. -/
def Grantable : Prop :=
  ∃ roles : List RestrictedRole, roles.Perm layers.groups ∧
    ∀ name ∈ abilities,
      Layers.Decides (named name verdict) .allow layers.first ∨
        Layers.Silent (named name verdict) layers.first ∧
          layers.Leads (named name verdict) .allow roles

theorem decideEach_read_eq_true_iff (order : RowOrder) :
    decideEach verdict (groupByAbilityName (layers.read order)) abilities = true ↔
      ∀ name ∈ abilities, (layers.read order).findSome? (named name verdict) = some .allow := by
  rw [decideEach_eq_true_iff]
  simp only [findSome?_groupByAbilityName]

private theorem exists_order_granted_iff :
    (∃ order, decideEach verdict (groupByAbilityName (layers.read order)) abilities =
        true) ↔ Grantable layers verdict abilities := by
  simp only [decideEach_read_eq_true_iff]
  have selects : ∀ name permission, named name verdict permission = some .allow →
      (verdict permission == some .allow) = true := by
    intro name permission allows
    unfold named at allows
    split at allows
    · simpa using allows
    · contradiction
  have agrees : ∀ name permission other, (verdict permission == some .allow) = true →
      named name verdict permission = some other → other = .allow := by
    intro name permission other selected decides
    have allows : verdict permission = some .allow := by simpa using selected
    unfold named at decides
    split at decides
    · exact Option.some.inj (decides.symm.trans allows)
    · contradiction
  exact layers.exists_order_forall_iff selects agrees abilities

private theorem decideEach_orderFree_iff :
    (∀ one other, decideEach verdict (groupByAbilityName (layers.read one)) abilities =
        decideEach verdict (groupByAbilityName (layers.read other)) abilities) ↔
      ¬(Grantable layers verdict abilities ∧ ∃ name ∈ abilities,
        layers.Raced (named name verdict) .allow .forbid) := by
  constructor
  · rintro same ⟨grantable, name, listed, raced⟩
    obtain ⟨one, granted⟩ := (exists_order_granted_iff layers verdict abilities).mpr
      grantable
    obtain ⟨other, forbidden⟩ := layers.exists_findSome?_read_of_raced raced
    rw [same one other, decideEach_read_eq_true_iff] at granted
    rw [granted name listed] at forbidden
    contradiction
  · intro settled
    have agree : ∀ one other,
        decideEach verdict (groupByAbilityName (layers.read one)) abilities = true →
        decideEach verdict (groupByAbilityName (layers.read other)) abilities = true := by
      intro one other granted
      have grantable := (exists_order_granted_iff layers verdict abilities).mp ⟨one, granted⟩
      rw [decideEach_read_eq_true_iff] at granted ⊢
      intro name listed
      have allowed := granted name listed
      cases scanned : (layers.read other).findSome? (named name verdict) with
      | none =>
        have silent := (layers.findSome?_read_eq_none other _).mp scanned
        rw [(layers.findSome?_read_eq_none one _).mpr silent] at allowed
        contradiction
      | some decided =>
        cases decided with
        | allow => rfl
        | forbid =>
          exact absurd ⟨grantable, name, listed,
            layers.raced_of_findSome?_read allowed scanned⟩ settled
    intro one other
    rw [Bool.eq_iff_iff]
    exact ⟨agree one other, agree other one⟩

end

section

variable (layers : Layers Permission RestrictedRole) (entityType : EntityType)
  (entityID : Nat)

def FirstUniform (abilities : List AbilityName) : Prop :=
  ∀ before name after, abilities = before ++ name :: after →
    (∀ earlier ∈ before,
      Layers.Silent (named earlier (anyVerdict entityType entityID)) layers.first ∧
        Layers.Silent (named earlier (anyVerdict entityType entityID)) layers.second) →
    layers.Uniform (named name (anyVerdict entityType entityID))

def anyScan (order : RowOrder) (abilities : List AbilityName) : Option AnyVerdict :=
  abilities.findSome? fun name =>
    (layers.read order).findSome? (named name (anyVerdict entityType entityID))

private theorem anyScan_eq_of_firstUniform (abilities : List AbilityName)
    (uniform : FirstUniform layers entityType entityID abilities) (one other : RowOrder) :
    anyScan layers entityType entityID one abilities =
      anyScan layers entityType entityID other abilities := by
  induction abilities with
  | nil => rfl
  | cons name rest ih =>
    have head := (uniform [] name rest rfl (by simp)).findSome?_read_eq layers one other
    simp only [anyScan, findSome?_cons]
    rw [head]
    cases scanned : (layers.read other).findSome? (named name (anyVerdict entityType entityID)) with
    | some decision => rfl
    | none =>
      refine ih ?_
      intro before later after split earlierSilent
      refine uniform (name :: before) later after (by simp [split]) ?_
      intro earlier member
      rcases mem_cons.mp member with rfl | inBefore
      · exact (layers.findSome?_read_eq_none other _).mp scanned
      · exact earlierSilent earlier inBefore

private theorem firstUniform_of_anyScan_eq (abilities : List AbilityName)
    (same : ∀ one other, anyScan layers entityType entityID one abilities =
      anyScan layers entityType entityID other abilities) :
    FirstUniform layers entityType entityID abilities := by
  intro before name after split earlierSilent
  have scanned : ∀ order decision,
      (layers.read order).findSome? (named name (anyVerdict entityType entityID)) = some decision →
      anyScan layers entityType entityID order abilities = some decision := by
    intro order decision decided
    have skipped : before.findSome? (fun name => (layers.read order).findSome?
        (named name (anyVerdict entityType entityID))) = none := by
      rw [findSome?_eq_none_iff]
      intro earlier member
      exact (layers.findSome?_read_eq_none order _).mpr (earlierSilent earlier member)
    rw [anyScan, split, findSome?_append, skipped, Option.none_or,
      findSome?_cons, decided]
  have agree : ∀ one other,
      (∃ order, (layers.read order).findSome?
        (named name (anyVerdict entityType entityID)) = some one) →
      (∃ order, (layers.read order).findSome?
        (named name (anyVerdict entityType entityID)) = some other) → one = other := by
    rintro one other ⟨oneOrder, oneDecided⟩ ⟨otherOrder, otherDecided⟩
    have equal := same oneOrder otherOrder
    rw [scanned _ _ oneDecided, scanned _ _ otherDecided] at equal
    exact Option.some.inj equal
  constructor
  · intro one other oneFirst otherFirst
    exact agree one other ⟨_, layers.findSome?_read_favouring_first oneFirst⟩
      ⟨_, layers.findSome?_read_favouring_first otherFirst⟩
  · intro silent one other oneSecond otherSecond
    exact agree one other ⟨_, layers.findSome?_read_favouring_second silent oneSecond⟩
      ⟨_, layers.findSome?_read_favouring_second silent otherSecond⟩

private theorem decideAny_read (order : RowOrder) (abilities : List AbilityName) :
    decideAny entityType entityID (groupByAbilityName (layers.read order)) abilities =
      anyOutcome (anyScan layers entityType entityID order abilities) := by
  simp only [decideAny, anyScan, findSome?_groupByAbilityName]

private theorem anyScan_eq_none_of (abilities : List AbilityName)
    (none? : anyScan layers entityType entityID one abilities = none) (other : RowOrder) :
    anyScan layers entityType entityID other abilities = none := by
  unfold anyScan at none? ⊢
  rw [findSome?_eq_none_iff] at none? ⊢
  intro name listed
  have silent := (layers.findSome?_read_eq_none one _).mp (none? name listed)
  exact (layers.findSome?_read_eq_none other _).mpr silent

private theorem decideAny_orderFree_iff (abilities : List AbilityName) : (∀ one other,
      decideAny entityType entityID (groupByAbilityName (layers.read one)) abilities =
      decideAny entityType entityID (groupByAbilityName (layers.read other)) abilities) ↔
    FirstUniform layers entityType entityID abilities := by
  simp only [decideAny_read]
  constructor
  · intro same
    apply firstUniform_of_anyScan_eq
    intro one other
    cases oneScan : anyScan layers entityType entityID one abilities with
    | none => rw [anyScan_eq_none_of layers entityType entityID abilities oneScan other]
    | some oneVerdict =>
      cases otherScan : anyScan layers entityType entityID other abilities with
      | none =>
        rw [anyScan_eq_none_of layers entityType entityID abilities otherScan one] at oneScan
        contradiction
      | some otherVerdict =>
        have outcome := same one other
        cases oneVerdict <;> cases otherVerdict <;> simp_all [anyOutcome]
  · intro uniform one other
    rw [anyScan_eq_of_firstUniform layers entityType entityID abilities uniform one other]

end

namespace RBAC

def OrderFree (run : Read → Except Failure Bool × RBAC driver) : Prop :=
  ∀ one other : Read, one.Steady → other.Steady → (run one).1 = (run other).1

private theorem query_orderFree_iff {rbac : RBAC driver} (current : rbac.Current userID)
    (decision : PermissionMap → Except Failure Bool) :
    OrderFree (rbac.query userID · decision) ↔
      ∀ one other, decision (permissionsOf rbac.repo userID one) =
        decision (permissionsOf rbac.repo userID other) := by
  constructor
  · intro same one other
    obtain ⟨oneRead, oneSteady, oneResult⟩ :=
      (exists_query_iff_of_current current decision _).mpr ⟨one, rfl⟩
    obtain ⟨otherRead, otherSteady, otherResult⟩ :=
      (exists_query_iff_of_current current decision _).mpr ⟨other, rfl⟩
    rw [← oneResult, ← otherResult]
    exact same oneRead otherRead oneSteady otherSteady
  · intro same one other oneSteady otherSteady
    obtain ⟨oneOrder, oneResult⟩ :=
      (exists_query_iff_of_current current decision _).mp ⟨one, oneSteady, rfl⟩
    obtain ⟨otherOrder, otherResult⟩ :=
      (exists_query_iff_of_current current decision _).mp ⟨other, otherSteady, rfl⟩
    rw [← oneResult, ← otherResult]
    exact same oneOrder otherOrder

/-- When the answers of `Can`, `CanForEntity` and `CanAnyForEntity` do not
depend on the order of rows. -/
theorem queries_orderFree_iff (rbac : RBAC driver) (userID : Nat) (entityType : EntityType)
    (entityID : Nat) (abilities : List AbilityName) (current : rbac.Current userID) :
    (OrderFree (rbac.can userID abilities) ↔
        ¬(Grantable (layersFor rbac.repo userID) globalVerdict abilities ∧
          ∃ name ∈ abilities, (layersFor rbac.repo userID).Raced
            (named name globalVerdict) .allow .forbid)) ∧
      (OrderFree (rbac.canForEntity userID entityType entityID abilities) ↔
        ¬(Grantable (layersFor rbac.repo userID) (entityVerdict entityType entityID) abilities ∧
          ∃ name ∈ abilities, (layersFor rbac.repo userID).Raced
            (named name (entityVerdict entityType entityID)) .allow .forbid)) ∧
      (OrderFree (rbac.canAnyForEntity userID entityType entityID abilities) ↔
        FirstUniform (layersFor rbac.repo userID) entityType entityID abilities) := by
  refine ⟨?_, ?_, ?_⟩
  · unfold can
    rw [query_orderFree_iff current, ← decideEach_orderFree_iff]
    simp only [Except.ok.injEq]
    rfl
  · unfold canForEntity
    rw [query_orderFree_iff current, ← decideEach_orderFree_iff]
    simp only [Except.ok.injEq]
    rfl
  · unfold canAnyForEntity
    rw [query_orderFree_iff current, ← decideAny_orderFree_iff]
    constructor
    · intro same one other
      have results := same one other
      simp only [permissionsOf] at results
      split at results <;> split at results <;> simp_all
    · intro same one other
      simp only [permissionsOf, same one other]

theorem queries_orderFree_globalGrant :
    globalGrant.Current 7 ∧ OrderFree (globalGrant.can 7 ["game-server-start"]) ∧
      OrderFree (globalGrant.canForEntity 7 .server 5 ["game-server-start"]) := by
  have current : globalGrant.Current 7 := fun _ found => nomatch found
  have free := queries_orderFree_iff globalGrant 7 .server 5 ["game-server-start"] current
  refine ⟨current, free.1.mpr ?_, free.2.1.mpr ?_⟩ <;>
  · rintro ⟨_, name, listed, raced⟩
    cases mem_singleton.mp listed
    revert raced
    unfold Layers.Raced Layers.Decides Layers.Silent
    decide

def contradictoryRows : RBAC .inMemory where
  repo :=
    .ofRows [] [] [⟨1, "game-server-start", none, none, none, false, none, none⟩]
      [⟨1, 1, some 7, some .user, false, none, none⟩,
        ⟨2, 1, some 7, some .user, true, none, none⟩] (by decide)
  cache := .new 0
  now := 0

def forbiddenFirst : RowOrder :=
  ⟨.front Permission.forbidden, .kept, fun _ => .front Permission.forbidden⟩

theorem contradictoryRows_orderDependent :
    ((contradictoryRows.can 7 ["game-server-start"] (.undisturbed storedOrder)).1 = .ok true ∧
      (contradictoryRows.can 7 ["game-server-start"] (.undisturbed forbiddenFirst)).1 = .ok false) ∧
    ((contradictoryRows.canForEntity 7 .server 5 ["game-server-start"]
        (.undisturbed storedOrder)).1 = .ok true ∧
      (contradictoryRows.canForEntity 7 .server 5 ["game-server-start"]
        (.undisturbed forbiddenFirst)).1 = .ok false) ∧
    ((contradictoryRows.canAnyForEntity 7 .server 5 ["game-server-start"]
        (.undisturbed storedOrder)).1 = .ok true ∧
      (contradictoryRows.canAnyForEntity 7 .server 5 ["game-server-start"]
        (.undisturbed forbiddenFirst)).1 = .ok false) :=
  ⟨⟨rfl, rfl⟩, ⟨rfl, rfl⟩, rfl, rfl⟩

end RBAC

end ShadowPanel.Rbac
