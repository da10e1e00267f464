import ShadowPanel.Metrics.NodeCounts

namespace ShadowPanel.Metrics

/-! The state of one node beside the subscriptions of the hub. -/

def Subscription.isOpenAt (nodeID : Nat) (subscription : Subscription) : Bool :=
  subscription.nodeID == nodeID && !subscription.closed

def OpenIn (subscriptions : List Subscription) (nodeID index : Nat) : Prop :=
  ∃ subscription, subscriptions[index]? = some subscription ∧ subscription.isOpenAt nodeID = true

section

variable {subscriptions : List Subscription} {subscription : Subscription}
variable {nodeID : Nat}

theorem openIn_iff_of_getElem? (found : subscriptions[index]? = some subscription) :
    OpenIn subscriptions nodeID index ↔ subscription.isOpenAt nodeID = true := by
  unfold OpenIn
  rw [found]
  simp

theorem countP_eq_zero_iff : subscriptions.countP (Subscription.isOpenAt nodeID) = 0 ↔
    ∀ index, ¬OpenIn subscriptions nodeID index := by
  rw [List.countP_eq_zero]
  constructor
  · intro none index ⟨subscription, found, isOpen⟩
    exact none subscription (List.mem_of_getElem? found) isOpen
  · intro none subscription member isOpen
    obtain ⟨index, found⟩ := List.getElem?_of_mem member
    exact none index ⟨subscription, found, isOpen⟩

theorem openIn_append : OpenIn (subscriptions ++ [new]) nodeID index ↔
    OpenIn subscriptions nodeID index ∨
      index = subscriptions.length ∧ new.isOpenAt nodeID = true := by
  unfold OpenIn
  rw [List.getElem?_append]
  split
  next inside =>
    have other : index ≠ subscriptions.length := by omega
    simp [other]
  next outside =>
    have beyond : subscriptions[index]? = none := List.getElem?_eq_none (by omega)
    rw [beyond]
    by_cases last : index = subscriptions.length
    · simp [last]
    · have past : index - subscriptions.length ≠ 0 := by omega
      simp [last, past]

theorem countP_append : (subscriptions ++ [new]).countP (Subscription.isOpenAt nodeID) =
    subscriptions.countP (Subscription.isOpenAt nodeID) + (new.isOpenAt nodeID).toNat := by
  rw [List.countP_append, List.countP_singleton]
  cases new.isOpenAt nodeID <;> rfl

@[simp] theorem isOpenAt_shut : subscription.shut.isOpenAt nodeID = false := by
  simp [Subscription.isOpenAt, Subscription.shut]

theorem openIn_set (found : subscriptions[index]? = some subscription) :
    OpenIn (subscriptions.set index subscription.shut) nodeID other ↔
      OpenIn subscriptions nodeID other ∧ other ≠ index := by
  by_cases same : other = index
  · subst same
    have bound : other < subscriptions.length := (List.getElem?_eq_some_iff.mp found).1
    simp [openIn_iff_of_getElem? (List.getElem?_set_self bound)]
  · unfold OpenIn
    rw [List.getElem?_set_ne (Ne.symm same)]
    simp [same]

theorem countP_set (nodeID : Nat) (found : subscriptions[index]? = some subscription) :
    (subscriptions.set index subscription.shut).countP (Subscription.isOpenAt nodeID) +
        (subscription.isOpenAt nodeID).toNat =
      subscriptions.countP (Subscription.isOpenAt nodeID) := by
  obtain ⟨bound, same⟩ := List.getElem?_eq_some_iff.mp found
  have positive : subscription.isOpenAt nodeID = true →
      0 < subscriptions.countP (Subscription.isOpenAt nodeID) := by
    intro isOpen
    exact List.countP_pos_iff.mpr ⟨subscription, List.mem_of_getElem? found, isOpen⟩
  rw [List.countP_set bound, same, isOpenAt_shut]
  cases isOpen : subscription.isOpenAt nodeID with
  | false => simp
  | true =>
    have := positive isOpen
    simp
    omega

end

/-- The state of a node agrees with the subscriptions.  After `Stop` the map of subscribers is
gone, and so are the open subscriptions of the node. -/
structure NodeSound (subscriptions : List Subscription) (rootDone : Bool) (nodeID : Nat)
    (state : NodeState) : Prop where
  wellFormed : state.WellFormed
  counted : ∀ subscribers, state.subscribers = some subscribers →
    state.localCount = subscriptions.countP (Subscription.isOpenAt nodeID) ∧
      ∀ index, index ∈ subscribers ↔ OpenIn subscriptions nodeID index
  dropped : state.subscribers = none →
    rootDone = true ∧ subscriptions.countP (Subscription.isOpenAt nodeID) = 0

structure NodeHealthy (rootDone connected : Bool) (now : Int) (state : NodeState) : Prop where
  counted : state.subscribers = none → state.localCount = 0
  polled : rootDone = false → connected = true → state.demanded now = true → state.polling = true

structure SameFor (nodeID : Nat) (before after : List Subscription) : Prop where
  count : after.countP (Subscription.isOpenAt nodeID) = before.countP (Subscription.isOpenAt nodeID)
  openIn : ∀ index, OpenIn after nodeID index ↔ OpenIn before nodeID index

section

theorem NodeSound.of_sameFor (same : SameFor nodeID subscriptions after)
    (sound : NodeSound subscriptions rootDone nodeID state) :
    NodeSound after rootDone nodeID state where
  wellFormed := sound.wellFormed
  counted := by
    intro subscribers found
    obtain ⟨count, members⟩ := sound.counted subscribers found
    rw [same.count]
    exact ⟨count, fun index => (members index).trans (same.openIn index).symm⟩
  dropped := by
    rw [same.count]
    exact sound.dropped

theorem NodeSound.of_counts (sound : NodeSound subscriptions rootDone nodeID state)
    (wellFormed : next.WellFormed) (localCount : next.localCount = state.localCount)
    (subscribers : next.subscribers = state.subscribers) :
    NodeSound subscriptions rootDone nodeID next where
  wellFormed := wellFormed
  counted := by
    rw [localCount, subscribers]
    exact sound.counted
  dropped := by
    rw [subscribers]
    exact sound.dropped

theorem NodeSound.of_sameCounts (same : NodeState.SameCounts now state next)
    (sound : NodeSound subscriptions rootDone nodeID state) :
    NodeSound subscriptions rootDone nodeID next :=
  sound.of_counts (same.wellFormed sound.wellFormed) same.localCount same.subscribers

theorem NodeSound.maybeStartOrStopPoll (hub : Hub)
    (sound : NodeSound subscriptions rootDone nodeID state) :
    NodeSound subscriptions rootDone nodeID (hub.maybeStartOrStopPoll nodeID state) := by
  unfold Hub.maybeStartOrStopPoll
  split
  · exact sound.of_sameCounts (NodeState.sameCounts_startOrStopPoll _ _)
  · exact sound

variable (sound : NodeSound subscriptions rootDone nodeID state)

include sound

theorem NodeSound.announce (room : state.total + count ≤ maxCount) (instanceID : String)
    (expires : Int) :
    NodeSound subscriptions rootDone nodeID (state.announce instanceID count expires) := by
  obtain ⟨localCount, subscribers⟩ := NodeState.counts_announce state instanceID count expires
  exact sound.of_counts (sound.wellFormed.announce room instanceID expires) localCount subscribers

theorem NodeSound.addSubscriber (found : state.subscribers = some subscribers)
    (room : state.total + 1 ≤ maxCount) :
    NodeSound (subscriptions ++ [⟨nodeID, false, false⟩]) rootDone nodeID
      (state.addSubscriber subscriptions.length subscribers) := by
  obtain ⟨count, members⟩ := sound.counted subscribers found
  obtain ⟨localCount, wellFormed⟩ := sound.wellFormed.addSubscriber room
  have isOpen : (Subscription.mk nodeID false false).isOpenAt nodeID = true := by
    simp [Subscription.isOpenAt]
  refine ⟨wellFormed, ?_, fun gone => nomatch gone⟩
  intro added same
  cases same
  constructor
  · rw [localCount, count, countP_append, isOpen]
    rfl
  · intro index
    rw [openIn_append, List.mem_cons, members, isOpen, or_comm]
    simp

theorem NodeSound.removeSubscriber (found : subscriptions[index]? = some subscription) :
    NodeSound (subscriptions.set index subscription.shut) rootDone nodeID
      (state.removeSubscriber index) := by
  have closing := countP_set nodeID found
  refine ⟨sound.wellFormed.removeSubscriber index, ?_, ?_⟩
  · intro remaining
    unfold NodeState.removeSubscriber
    split
    next gone =>
      intro clash
      rw [gone] at clash
      cases clash
    next subscribers present =>
      obtain ⟨count, members⟩ := sound.counted subscribers present
      have isMember := (members index).trans (openIn_iff_of_getElem? found)
      split
      next member =>
        intro same
        cases same
        rw [isMember.mp member, Bool.toNat_true] at closing
        constructor
        · dsimp only
          omega
        · intro other
          rw [openIn_set found, List.mem_filter, members, decide_eq_true_eq]
      next stranger =>
        intro same
        rw [present] at same
        cases same
        rw [Bool.eq_false_iff.mpr (fun isOpen => stranger (isMember.mpr isOpen)),
          Bool.toNat_false, Nat.add_zero] at closing
        refine ⟨by rw [count, closing], ?_⟩
        intro other
        rw [openIn_set found, members]
        constructor
        · intro isOpen
          refine ⟨isOpen, ?_⟩
          intro same
          subst same
          exact stranger ((members other).mpr isOpen)
        · exact And.left
  · unfold NodeState.removeSubscriber
    split
    next gone =>
      intro _
      obtain ⟨done, none⟩ := sound.dropped gone
      exact ⟨done, by omega⟩
    next subscribers present =>
      split
      · intro clash
        cases clash
      · intro clash
        rw [present] at clash
        cases clash

end

section

theorem NodeHealthy.of_later (order : now ≤ later)
    (healthy : NodeHealthy rootDone connected now state) :
    NodeHealthy rootDone connected later state where
  counted := healthy.counted
  polled := fun running here demands =>
    healthy.polled running here (NodeState.demanded_of_later order demands)

theorem nodeHealthy_maybeStartOrStopPoll (hub : Hub) (nodeID : Nat) (wellFormed : state.WellFormed)
    (counted : state.subscribers = none → state.localCount = 0) :
    NodeHealthy rootDone (hub.connected nodeID) hub.clock
      (hub.maybeStartOrStopPoll nodeID state) := by
  unfold Hub.maybeStartOrStopPoll
  split
  next here =>
    have same := NodeState.sameCounts_startOrStopPoll hub.clock state
    constructor
    · rw [same.subscribers, same.localCount]
      exact counted
    · intro _ _ demands
      rw [same.demanded_eq] at demands
      rw [wellFormed.polling_startOrStopPoll, demands, Bool.or_true]
  next away => exact ⟨counted, fun _ here => absurd here away⟩

theorem NodeHealthy.stopPollIfStillIdle (healthy : NodeHealthy rootDone connected now state)
    (wellFormed : state.WellFormed) :
    NodeHealthy rootDone connected now (state.stopPollIfStillIdle now) := by
  have same := NodeState.sameCounts_stopPollIfStillIdle now state
  constructor
  · rw [same.subscribers, same.localCount]
    exact healthy.counted
  · intro running here demands
    rw [same.demanded_eq] at demands
    rw [wellFormed.polling_stopPollIfStillIdle, demands, healthy.polled running here demands]
    rfl

theorem NodeHealthy.removeSubscriber (healthy : NodeHealthy rootDone connected now state)
    (index : Nat) : NodeHealthy rootDone connected now (state.removeSubscriber index) := by
  unfold NodeState.removeSubscriber
  split
  · exact healthy
  · split
    · refine ⟨fun gone => (nomatch gone), ?_⟩
      intro running here demands
      apply healthy.polled running here
      simp only [NodeState.demanded, Bool.or_eq_true, decide_eq_true_eq] at demands ⊢
      apply demands.imp_left
      intro positive
      split at positive <;> omega
    · exact healthy

end

end ShadowPanel.Metrics
