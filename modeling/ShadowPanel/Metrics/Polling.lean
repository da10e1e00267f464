import ShadowPanel.Data.Runs
import ShadowPanel.Metrics.Subscriptions

namespace ShadowPanel.Metrics

open Data Hub

/-! What the counts and the polling of the hub have to do with the subscriptions. -/

namespace Hub

def openCount (hub : Hub) (nodeID : Nat) : Nat :=
  hub.subscriptions.countP (Subscription.isOpenAt nodeID)

structure Healthy (hub : Hub) : Prop where
  counted : ∀ nodeID, (hub.getOrCreateState nodeID).localCount = hub.openCount nodeID
  nonneg : ∀ nodeID, 0 ≤ (hub.getOrCreateState nodeID).localCount
  polled : hub.rootDone = false → ∀ nodeID, hub.connected nodeID = true →
    (hub.getOrCreateState nodeID).demanded hub.clock = true →
    (hub.getOrCreateState nodeID).polling = true

def Fits (hub : Hub) : Call → Prop
  | .subscribe nodeID => (hub.getOrCreateState nodeID).total + 1 ≤ maxCount
  | .handleSubscribersHeartbeat instanceID nodeID count =>
    instanceID ≠ hub.instanceID → (hub.getOrCreateState nodeID).total + count ≤ maxCount
  | _ => True

/-- A hub is stopped when every subscription is closed, a stopped one is not asked for a node
that it knew, and no node comes here that is waited for and not polled. -/
def Orderly (hub : Hub) : Call → Prop
  | .subscribe nodeID => (hub.getOrCreateState nodeID).subscribers ≠ none
  | .stop => ∀ subscription ∈ hub.subscriptions, subscription.closed = true
  | .connect nodeID => hub.rootDone = false →
      (hub.getOrCreateState nodeID).demanded hub.clock = true →
      (hub.getOrCreateState nodeID).polling = true
  | _ => True

end Hub

namespace Outcome

def Healthy : Outcome → Prop
  | .returned hub => hub.Healthy
  | .panicked => False

def Meets (condition : Hub → Call → Prop) (outcome : Outcome) (event : Event) : Prop :=
  match outcome with
  | .returned hub => condition (hub.advance event.elapsed) event.call
  | .panicked => True

end Outcome

namespace Hub

structure Sound (hub : Hub) : Prop where
  started : hub.startedFlag = true
  nodes : ∀ nodeID, NodeSound hub.subscriptions hub.rootDone nodeID (hub.getOrCreateState nodeID)

def NodesHealthy (hub : Hub) : Prop :=
  ∀ nodeID, NodeHealthy hub.rootDone (hub.connected nodeID) hub.clock (hub.getOrCreateState nodeID)

theorem Sound.healthy_iff {hub : Hub} (sound : hub.Sound) : hub.Healthy ↔ hub.NodesHealthy := by
  constructor
  · intro healthy nodeID
    refine ⟨?_, fun running => healthy.polled running nodeID⟩
    intro gone
    rw [healthy.counted nodeID, openCount, ((sound.nodes nodeID).dropped gone).2]
    rfl
  · intro healthy
    refine ⟨?_, fun nodeID => (sound.nodes nodeID).wellFormed.nonneg,
      fun running nodeID => (healthy nodeID).polled running⟩
    intro nodeID
    cases found : (hub.getOrCreateState nodeID).subscribers with
    | none =>
      rw [(healthy nodeID).counted found, openCount, ((sound.nodes nodeID).dropped found).2]
      rfl
    | some subscribers => exact ((sound.nodes nodeID).counted subscribers found).1

end Hub

namespace Hub

variable {hub : Hub}

def updated (hub : Hub) (nodeID : Nat) (state : NodeState) (subscriptions : List Subscription) :
    Hub :=
  { hub.setState nodeID state with subscriptions := subscriptions }

@[simp] theorem getOrCreateState_updated (hub : Hub) (nodeID other : Nat) (state : NodeState)
    (subscriptions : List Subscription) :
    (hub.updated nodeID state subscriptions).getOrCreateState other =
      if other = nodeID then state else hub.getOrCreateState other := by
  unfold updated setState getOrCreateState
  dsimp only
  rw [Function.update_apply]
  split <;> rfl

theorem Sound.updated (sound : hub.Sound) {subscriptions : List Subscription}
    (others : ∀ other ≠ nodeID, SameFor other hub.subscriptions subscriptions)
    (own : NodeSound subscriptions hub.rootDone nodeID state) :
    (hub.updated nodeID state subscriptions).Sound where
  started := sound.started
  nodes := by
    intro other
    rw [getOrCreateState_updated]
    split
    next same =>
      rw [same]
      exact own
    next different => exact (sound.nodes other).of_sameFor (others other different)

theorem NodesHealthy.updated (healthy : hub.NodesHealthy) (subscriptions : List Subscription)
    (own : NodeHealthy hub.rootDone (hub.connected nodeID) hub.clock state) :
    (hub.updated nodeID state subscriptions).NodesHealthy := by
  intro other
  rw [getOrCreateState_updated]
  split
  next same =>
    rw [same]
    exact own
  · exact healthy other

structure Keeps (hub after : Hub) : Prop where
  sound : hub.Sound → after.Sound
  healthy : hub.Sound → hub.NodesHealthy → after.NodesHealthy

theorem sameFor_refl (nodeID : Nat) (subscriptions : List Subscription) :
    SameFor nodeID subscriptions subscriptions :=
  ⟨rfl, fun _ => Iff.rfl⟩

theorem keeps_refl (hub : Hub) : Keeps hub hub := ⟨id, fun _ => id⟩

private theorem keeps_advance (hub : Hub) (elapsed : Nat) : Keeps hub (hub.advance elapsed) where
  sound := fun sound => ⟨sound.started, sound.nodes⟩
  healthy := by
    intro _ healthy nodeID
    refine (healthy nodeID).of_later ?_
    change hub.clock ≤ hub.clock + elapsed
    omega

theorem keeps_stopPollIfStillIdle (hub : Hub) (nodeID : Nat) :
    Keeps hub (hub.stopPollIfStillIdle nodeID) := by
  unfold stopPollIfStillIdle
  split
  · exact keeps_refl hub
  next state found =>
    have current : hub.getOrCreateState nodeID = state := by rw [getOrCreateState, found]; rfl
    subst current
    constructor
    · intro sound
      exact sound.updated (fun other _ => sameFor_refl other _)
        ((sound.nodes nodeID).of_sameCounts (NodeState.sameCounts_stopPollIfStillIdle _ _))
    · intro sound healthy
      exact healthy.updated _ ((healthy nodeID).stopPollIfStillIdle (sound.nodes nodeID).wellFormed)

theorem keeps_handleSubscribersHeartbeat {instanceID : String}
    (fits : hub.Fits (.handleSubscribersHeartbeat instanceID nodeID count)) :
    Keeps hub (hub.handleSubscribersHeartbeat instanceID nodeID count) := by
  unfold handleSubscribersHeartbeat
  split
  · exact keeps_refl hub
  next foreign =>
    have room := fits foreign
    constructor
    · intro sound
      exact sound.updated (fun other _ => sameFor_refl other _)
        (((sound.nodes nodeID).announce room instanceID _).maybeStartOrStopPoll hub)
    · intro sound healthy
      have wellFormed := (sound.nodes nodeID).wellFormed.announce room instanceID
        (hub.clock + hub.heartbeatTTL)
      refine healthy.updated _ (nodeHealthy_maybeStartOrStopPoll hub nodeID wellFormed ?_)
      obtain ⟨localCount, subscribers⟩ :=
        (hub.getOrCreateState nodeID).counts_announce instanceID count _
      rw [localCount, subscribers]
      exact (healthy nodeID).counted

private theorem sameFor_set {subscriptions : List Subscription}
    (found : subscriptions[index]? = some subscription) (different : other ≠ subscription.nodeID) :
    SameFor other subscriptions (subscriptions.set index subscription.shut) := by
  have foreign : subscription.isOpenAt other = false := by
    simp [Subscription.isOpenAt, Ne.symm different]
  constructor
  · have closing := countP_set other found
    rw [foreign] at closing
    exact closing
  · intro position
    rw [openIn_set found]
    constructor
    · exact And.left
    · intro isOpen
      refine ⟨isOpen, ?_⟩
      intro same
      rw [same, openIn_iff_of_getElem? found, foreign] at isOpen
      cases isOpen

private theorem keeps_unsubscribe (found : hub.subscriptions[index]? = some subscription) :
    Keeps hub (hub.unsubscribe index subscription) := by
  have others (other : Nat) (different : other ≠ subscription.nodeID) := sameFor_set found different
  unfold unsubscribe
  split
  next absent =>
    have current : hub.getOrCreateState subscription.nodeID = newNodeState := by
      rw [getOrCreateState, absent]
      rfl
    refine ⟨fun sound => ⟨sound.started, ?_⟩, fun _ healthy => healthy⟩
    intro nodeID
    by_cases same : nodeID = subscription.nodeID
    · have own := (sound.nodes nodeID).removeSubscriber found
      rw [same] at own ⊢
      change NodeSound _ _ _ (hub.getOrCreateState subscription.nodeID)
      rw [current] at own ⊢
      exact own
    · exact (sound.nodes nodeID).of_sameFor (others nodeID same)
  next state present =>
    have current : hub.getOrCreateState subscription.nodeID = state := by
      rw [getOrCreateState, present]
      rfl
    subst current
    constructor
    · intro sound
      have removed := (sound.nodes subscription.nodeID).removeSubscriber found
      refine sound.updated others ?_
      split
      · exact removed.maybeStartOrStopPoll hub
      · exact removed
    · intro sound healthy
      apply healthy.updated
      split
      next last =>
        exact nodeHealthy_maybeStartOrStopPoll hub _
          ((sound.nodes subscription.nodeID).wellFormed.removeSubscriber index) (fun _ => last)
      · exact (healthy subscription.nodeID).removeSubscriber index

theorem keeps_close (hub : Hub) (index : Nat) : Keeps hub (hub.close index) := by
  unfold close
  split
  · exact keeps_refl hub
  next subscription found =>
    split
    · exact keeps_refl hub
    · exact keeps_unsubscribe found

private theorem sameFor_append (subscriptions : List Subscription) (different : other ≠ nodeID) :
    SameFor other subscriptions (subscriptions ++ [⟨nodeID, false, false⟩]) := by
  have foreign : (Subscription.mk nodeID false false).isOpenAt other = false := by
    simp [Subscription.isOpenAt, Ne.symm different]
  constructor
  · rw [countP_append, foreign]
    rfl
  · intro index
    rw [openIn_append, foreign]
    simp

theorem subscribe_cases (sound : hub.Sound) (fits : hub.Fits (.subscribe nodeID)) :
    (hub.getOrCreateState nodeID).subscribers = none ∧ hub.subscribe nodeID = .panicked ∨
      (hub.getOrCreateState nodeID).subscribers ≠ none ∧
        ∃ after, hub.subscribe nodeID = .returned after ∧ Keeps hub after := by
  unfold subscribe
  rw [if_pos sound.started]
  dsimp only
  split
  next gone => exact .inl ⟨gone, rfl⟩
  next subscribers present =>
    refine .inr ⟨by rw [present]; exact Option.some_ne_none _, hub.updated nodeID _ _, rfl, ?_⟩
    constructor
    · intro sound
      exact sound.updated (fun other different => sameFor_append hub.subscriptions different)
        (((sound.nodes nodeID).addSubscriber present fits).maybeStartOrStopPoll hub)
    · intro sound healthy
      have added := (sound.nodes nodeID).addSubscriber present fits
      exact healthy.updated _
        (nodeHealthy_maybeStartOrStopPoll hub nodeID added.wellFormed (fun gone => nomatch gone))

private theorem not_openIn_stop (sound : hub.Sound) (nodeID index : Nat) :
    ¬OpenIn hub.stop.subscriptions nodeID index := by
  intro ⟨after, foundAfter, isOpen⟩
  simp only [stop, List.getElem?_mapIdx, Option.map_eq_some_iff] at foundAfter
  obtain ⟨subscription, found, rfl⟩ := foundAfter
  split at isOpen
  next => simp [Subscription.isOpenAt] at isOpen
  next stranger =>
    have own : subscription.nodeID = nodeID := by
      simp only [Subscription.isOpenAt, Bool.and_eq_true, beq_iff_eq] at isOpen
      exact isOpen.1
    have inside : OpenIn hub.subscriptions nodeID index := ⟨subscription, found, isOpen⟩
    have node := sound.nodes nodeID
    cases present : (hub.getOrCreateState nodeID).subscribers with
    | none => exact countP_eq_zero_iff.mp (node.dropped present).2 index inside
    | some subscribers =>
      have member := ((node.counted subscribers present).2 index).mpr inside
      apply stranger
      unfold isSubscriber
      rw [own]
      unfold getOrCreateState at present
      cases state : hub.states nodeID with
      | none =>
        rw [state] at present
        cases present
        cases member
      | some state' =>
        rw [state, Option.getD_some] at present
        dsimp only
        rw [present, List.contains_iff_mem]
        exact member

@[simp] theorem getOrCreateState_stop (hub : Hub) (nodeID : Nat) :
    hub.stop.getOrCreateState nodeID = ((hub.states nodeID).map NodeState.stop).getD newNodeState :=
  rfl

theorem Sound.rootDone_stop (sound : hub.Sound) : hub.stop.rootDone = true := by
  change (hub.rootDone || hub.startedFlag) = true
  rw [sound.started, Bool.or_true]

private theorem sound_stop (sound : hub.Sound) : hub.stop.Sound := by
  refine ⟨sound.started, ?_⟩
  intro nodeID
  have none : hub.stop.subscriptions.countP (Subscription.isOpenAt nodeID) = 0 :=
    countP_eq_zero_iff.mpr (not_openIn_stop sound nodeID)
  have done := sound.rootDone_stop
  have wellFormed := (sound.nodes nodeID).wellFormed
  rw [getOrCreateState_stop]
  unfold getOrCreateState at wellFormed
  cases state : hub.states nodeID with
  | none =>
    refine ⟨NodeState.wellFormed_new, ?_, fun gone => nomatch gone⟩
    intro subscribers same
    cases same
    rw [none]
    exact ⟨rfl, fun index =>
      iff_of_false List.not_mem_nil (not_openIn_stop sound nodeID index)⟩
  | some before =>
    rw [state] at wellFormed
    exact ⟨wellFormed.stop, fun _ clash => (nomatch clash), fun _ => ⟨done, none⟩⟩

private theorem nodesHealthy_stop_iff (sound : hub.Sound) (healthy : hub.Healthy) :
    hub.stop.NodesHealthy ↔ ∀ subscription ∈ hub.subscriptions, subscription.closed = true := by
  have done := sound.rootDone_stop
  constructor
  · intro stopped subscription member
    rw [← Bool.not_eq_false]
    intro isOpen
    have counted := healthy.counted subscription.nodeID
    have positive : 0 < hub.openCount subscription.nodeID :=
      List.countP_pos_iff.mpr ⟨subscription, member, by simp [Subscription.isOpenAt, isOpen]⟩
    have after := (stopped subscription.nodeID).counted
    rw [getOrCreateState_stop] at after
    unfold getOrCreateState at counted
    cases state : hub.states subscription.nodeID with
    | none =>
      rw [state] at counted
      change (0 : Int) = _ at counted
      omega
    | some before =>
      rw [state] at counted after
      have zero : before.localCount = 0 := after rfl
      change before.localCount = _ at counted
      omega
  · intro closed nodeID
    have counted := healthy.counted nodeID
    have zero : hub.openCount nodeID = 0 := by
      apply List.countP_eq_zero.mpr
      intro subscription member
      simp [Subscription.isOpenAt, closed subscription member]
    refine ⟨?_, fun running => by rw [done] at running; cases running⟩
    rw [getOrCreateState_stop]
    unfold getOrCreateState at counted
    cases state : hub.states nodeID with
    | none =>
      intro gone
      cases gone
    | some before =>
      intro _
      rw [state, zero] at counted
      exact counted

private theorem nodesHealthy_connect_iff (healthy : hub.NodesHealthy) (nodeID : Nat) :
    NodesHealthy { hub with connected := Function.update hub.connected nodeID true } ↔
      hub.Orderly (.connect nodeID) := by
  constructor
  · intro after running
    exact (after nodeID).polled running (Function.update_self nodeID true hub.connected)
  · intro orderly other
    by_cases same : other = nodeID
    · subst same
      exact ⟨(healthy other).counted, fun running _ => orderly running⟩
    · change NodeHealthy _ (Function.update hub.connected nodeID true other) _ _
      rw [Function.update_of_ne same]
      exact healthy other

private theorem nodesHealthy_disconnect (healthy : hub.NodesHealthy) (nodeID : Nat) :
    NodesHealthy { hub with connected := Function.update hub.connected nodeID false } := by
  intro other
  refine ⟨(healthy other).counted, ?_⟩
  intro running here
  by_cases same : other = nodeID
  · subst same
    change Function.update hub.connected other false other = true at here
    rw [Function.update_self] at here
    cases here
  · change Function.update hub.connected nodeID false other = true at here
    rw [Function.update_of_ne same] at here
    exact (healthy other).polled running here

end Hub

namespace Outcome

def Sound : Outcome → Prop
  | .returned hub => hub.Sound
  | .panicked => True

theorem sound_handle {hub : Hub} (sound : hub.Sound) (fits : hub.Fits call) :
    (hub.handle call).Sound := by
  cases call with
  | subscribe nodeID =>
    cases subscribe_cases sound fits with
    | inl panics =>
      rw [handle, panics.2]
      trivial
    | inr returns =>
      obtain ⟨_, after, same, keeps⟩ := returns
      rw [handle, same]
      exact keeps.sound sound
  | close index => exact (hub.keeps_close index).sound sound
  | handleSubscribersHeartbeat => exact (keeps_handleSubscribersHeartbeat fits).sound sound
  | stopPollIfStillIdle nodeID => exact (hub.keeps_stopPollIfStillIdle nodeID).sound sound
  | stop => exact sound_stop sound
  | connect | disconnect => exact ⟨sound.started, sound.nodes⟩

private theorem orderly_iff_healthy_handle {hub : Hub} (sound : hub.Sound) (healthy : hub.Healthy)
    (fits : hub.Fits call) : hub.Orderly call ↔ (hub.handle call).Healthy := by
  have nodes := sound.healthy_iff.mp healthy
  have kept {after : Hub} (keeps : Hub.Keeps hub after) : after.Healthy :=
    (keeps.sound sound).healthy_iff.mpr (keeps.healthy sound nodes)
  have soundAfter := sound_handle sound fits
  cases call with
  | subscribe nodeID =>
    cases subscribe_cases sound fits with
    | inl panics =>
      rw [handle, panics.2]
      exact iff_of_false (fun orderly => orderly panics.1) id
    | inr returns =>
      obtain ⟨present, after, same, keeps⟩ := returns
      rw [handle, same]
      exact iff_of_true present (kept keeps)
  | close index => exact iff_of_true trivial (kept (hub.keeps_close index))
  | handleSubscribersHeartbeat =>
    exact iff_of_true trivial (kept (keeps_handleSubscribersHeartbeat fits))
  | stopPollIfStillIdle nodeID =>
    exact iff_of_true trivial (kept (hub.keeps_stopPollIfStillIdle nodeID))
  | stop =>
    exact ((Hub.Sound.healthy_iff soundAfter).trans (nodesHealthy_stop_iff sound healthy)).symm
  | connect nodeID =>
    exact ((Hub.Sound.healthy_iff soundAfter).trans (nodesHealthy_connect_iff nodes nodeID)).symm
  | disconnect nodeID =>
    exact iff_of_true trivial
      ((Hub.Sound.healthy_iff soundAfter).mpr (nodesHealthy_disconnect nodes nodeID))

end Outcome

private theorem sound_startedHub (instanceID : String) (heartbeatTTL : Int) (connected : Nat → Bool)
    (clock : Int) : (startedHub instanceID heartbeatTTL connected clock).Sound := by
  refine ⟨rfl, ?_⟩
  intro nodeID
  refine ⟨NodeState.wellFormed_new, ?_, fun gone => nomatch gone⟩
  intro subscribers same
  cases same
  refine ⟨rfl, fun index => iff_of_false List.not_mem_nil ?_⟩
  intro ⟨_, found, _⟩
  cases found

private theorem healthy_startedHub (instanceID : String) (heartbeatTTL : Int)
    (connected : Nat → Bool) (clock : Int) :
    (startedHub instanceID heartbeatTTL connected clock).Healthy :=
  ⟨fun _ => rfl, fun _ => Int.le_refl 0, fun _ _ _ demands => nomatch demands⟩

section

instance (hub : Hub) : (call : Call) → Decidable (hub.Fits call)
  | .subscribe nodeID =>
    inferInstanceAs (Decidable ((hub.getOrCreateState nodeID).total + 1 ≤ maxCount))
  | .handleSubscribersHeartbeat instanceID nodeID count =>
    inferInstanceAs (Decidable (instanceID ≠ hub.instanceID →
      (hub.getOrCreateState nodeID).total + count ≤ maxCount))
  | .close _ | .stopPollIfStillIdle _ | .stop | .connect _ | .disconnect _ => .isTrue trivial

instance (hub : Hub) : (call : Call) → Decidable (hub.Orderly call)
  | .subscribe nodeID =>
    inferInstanceAs (Decidable ((hub.getOrCreateState nodeID).subscribers ≠ none))
  | .stop =>
    inferInstanceAs (Decidable (∀ subscription ∈ hub.subscriptions, subscription.closed = true))
  | .connect nodeID =>
    inferInstanceAs (Decidable (hub.rootDone = false →
      (hub.getOrCreateState nodeID).demanded hub.clock = true →
      (hub.getOrCreateState nodeID).polling = true))
  | .close _ | .handleSubscribersHeartbeat _ _ _ | .stopPollIfStillIdle _ | .disconnect _ =>
    .isTrue trivial

instance (condition : Hub → Call → Prop) [∀ hub call, Decidable (condition hub call)] :
    (outcome : Outcome) → (event : Event) → Decidable (outcome.Meets condition event)
  | .returned hub, event =>
    inferInstanceAs (Decidable (condition (hub.advance event.elapsed) event.call))
  | .panicked, _ => .isTrue trivial

end

/-- As long as the counts stay within their range, the counts and the polling are right in every
state of a run, and no call panics, exactly when every call is orderly. -/
theorem healthy_iff_orderly (instanceID : String) (heartbeatTTL : Int) (connected : Nat → Bool)
    (clock : Int) (events : List Event)
    (fits : Along Outcome.step (Outcome.Meets Hub.Fits)
      (.returned (startedHub instanceID heartbeatTTL connected clock)) events) :
    (∀ first rest, events = first ++ rest →
        (run Outcome.step (.returned (startedHub instanceID heartbeatTTL connected clock))
          first).Healthy) ↔
      Along Outcome.step (Outcome.Meets Hub.Orderly)
        (.returned (startedHub instanceID heartbeatTTL connected clock)) events := by
  refine (fits.iff_always Outcome.Sound Outcome.Healthy ?_ ?_
    (sound_startedHub instanceID heartbeatTTL connected clock)
    (healthy_startedHub instanceID heartbeatTTL connected clock)).symm
  · intro outcome event fits sound
    cases outcome with
    | panicked => trivial
    | returned hub =>
      exact Outcome.sound_handle ((hub.keeps_advance event.elapsed).sound sound) fits
  · intro outcome event fits sound healthy
    cases outcome with
    | panicked => cases healthy
    | returned hub =>
      have keeps := hub.keeps_advance event.elapsed
      have later := keeps.sound sound
      have healthyLater := later.healthy_iff.mpr
        (keeps.healthy sound ((Hub.Sound.healthy_iff sound).mp healthy))
      exact Outcome.orderly_iff_healthy_handle later healthyLater fits

def orderlyEvents : List Event :=
  [⟨0, .connect 7⟩, ⟨1, .subscribe 7⟩, ⟨1, .subscribe 7⟩, ⟨2, .close 0⟩, ⟨0, .close 0⟩,
    ⟨1, .handleSubscribersHeartbeat "b" 7 2⟩, ⟨5, .disconnect 7⟩, ⟨1, .connect 7⟩, ⟨3, .close 1⟩,
    ⟨20, .stopPollIfStillIdle 7⟩, ⟨0, .stop⟩, ⟨1, .close 1⟩, ⟨1, .subscribe 8⟩]

theorem healthy_orderlyEvents : Along Outcome.step (Outcome.Meets Hub.Orderly)
      (.returned (startedHub "a" 15 (fun _ => false) 0)) orderlyEvents ∧
    (run Outcome.step (.returned (startedHub "a" 15 (fun _ => false) 0)) orderlyEvents).Healthy :=
  have orderly : Along Outcome.step (Outcome.Meets Hub.Orderly)
      (.returned (startedHub "a" 15 (fun _ => false) 0)) orderlyEvents := by decide
  ⟨orderly, (healthy_iff_orderly "a" 15 (fun _ => false) 0 orderlyEvents (by decide)).mpr orderly
    orderlyEvents [] (List.append_nil _).symm⟩

theorem not_healthy_around_stop :
    ¬(run Outcome.step (.returned (startedHub "a" 15 (fun _ => false) 0))
        [⟨0, .subscribe 7⟩, ⟨1, .connect 7⟩]).Healthy ∧
      ¬(run Outcome.step (.returned (startedHub "a" 15 (fun _ => false) 0))
        [⟨0, .subscribe 7⟩, ⟨1, .stop⟩]).Healthy ∧
      run Outcome.step (.returned (startedHub "a" 15 (fun _ => false) 0))
        [⟨0, .subscribe 7⟩, ⟨1, .stop⟩, ⟨1, .subscribe 7⟩] = .panicked := by
  refine ⟨?_, ?_, rfl⟩
  · intro healthy
    exact Bool.false_ne_true (healthy.polled rfl 7 rfl rfl)
  · intro healthy
    exact Int.one_ne_zero (healthy.counted 7)

end ShadowPanel.Metrics
