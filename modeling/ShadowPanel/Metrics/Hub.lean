import Mathlib.Logic.Function.Basic
import ShadowPanel.Data.Keyed

namespace ShadowPanel.Metrics

open Data

/-! The subscriptions and the polling of the metrics hub, of `internal/metrics/hub.go` and
`internal/metrics/subscription.go`.  The calls of a run come one after the other. -/

def int64 (number : Int) : Int := Int.bmod number 18446744073709551616

structure Subscription where
  nodeID : Nat
  closed : Bool
  unsubscribed : Bool

def Subscription.shut (subscription : Subscription) : Subscription :=
  { subscription with closed := true, unsubscribed := true }

structure RemoteCount where
  instanceID : String
  count : Int
  expires : Int

/-- The subscribers are positions in the hub's list of subscriptions; a nil map has none.
`polling` and `stopTimer` say whether `pollCancel` and the timer are there. -/
structure NodeState where
  localCount : Int
  subscribers : Option (List Nat)
  remoteCounts : List RemoteCount
  aggregatedCount : Int
  polling : Bool
  stopTimer : Bool

def newNodeState : NodeState where
  localCount := 0
  subscribers := some []
  remoteCounts := []
  aggregatedCount := 0
  polling := false
  stopTimer := false

namespace NodeState

variable (now : Int) (state : NodeState)

def dropExpired : NodeState :=
  { state with
    remoteCounts := state.remoteCounts.filter fun entry => !decide (entry.expires < now) }

def aggregated : Int :=
  state.remoteCounts.foldl (fun sum entry => int64 (sum + entry.count)) state.localCount

/-- `maybeStartOrStopPoll` for a node that is connected. -/
def startOrStopPoll : NodeState :=
  let state := state.dropExpired now
  let state := { state with aggregatedCount := state.aggregated }
  if 0 < state.aggregatedCount ∧ state.polling = false then
    { state with polling := true, stopTimer := false }
  else if ¬0 < state.aggregatedCount ∧ state.polling = true then
    { state with stopTimer := true }
  else state

def stopPollIfStillIdle : NodeState :=
  let state := { state with stopTimer := false }.dropExpired now
  if 0 < state.aggregated then state else { state with polling := false }

def addSubscriber (subscription : Nat) (subscribers : List Nat) : NodeState :=
  { state with
    subscribers := some (subscription :: subscribers)
    localCount := int64 (state.localCount + 1) }

def removeSubscriber (subscription : Nat) : NodeState :=
  match state.subscribers with
  | none => state
  | some subscribers =>
    if subscription ∈ subscribers then
      { state with
        subscribers := some (subscribers.filter (· ≠ subscription))
        localCount :=
          if 0 < state.localCount then state.localCount - 1 else state.localCount }
    else state

def announce (instanceID : String) (count expires : Int) : NodeState :=
  if count ≤ 0 then
    { state with
      remoteCounts := state.remoteCounts.filter fun entry => entry.instanceID ≠ instanceID }
  else
    { state with
      remoteCounts := assign RemoteCount.instanceID ⟨instanceID, count, expires⟩
        state.remoteCounts }

def stop : NodeState := { state with polling := false, stopTimer := false, subscribers := none }

end NodeState

/-- `rootDone` says that the root context is cancelled; `connected` is what the registry says of
the nodes. -/
structure Hub where
  instanceID : String
  heartbeatTTL : Int
  startedFlag : Bool
  rootDone : Bool
  states : Nat → Option NodeState
  subscriptions : List Subscription
  connected : Nat → Bool
  clock : Int

inductive Outcome where
  | returned (hub : Hub)
  | panicked

namespace Hub

variable (hub : Hub)

def setState (nodeID : Nat) (state : NodeState) : Hub :=
  { hub with states := Function.update hub.states nodeID (some state) }

def getOrCreateState (nodeID : Nat) : NodeState := (hub.states nodeID).getD newNodeState

def maybeStartOrStopPoll (nodeID : Nat) (state : NodeState) : NodeState :=
  if hub.connected nodeID then state.startOrStopPoll hub.clock else state

def subscribe (nodeID : Nat) : Outcome :=
  if hub.startedFlag then
    let state := hub.getOrCreateState nodeID
    match state.subscribers with
    -- assignment to an entry of a nil map
    | none => .panicked
    | some subscribers =>
      let added := state.addSubscriber hub.subscriptions.length subscribers
      .returned
        { hub.setState nodeID (hub.maybeStartOrStopPoll nodeID added) with
          subscriptions := hub.subscriptions ++ [⟨nodeID, false, false⟩] }
  else .returned hub

def unsubscribe (index : Nat) (subscription : Subscription) : Hub :=
  let subscriptions := hub.subscriptions.set index subscription.shut
  match hub.states subscription.nodeID with
  | none => { hub with subscriptions := subscriptions }
  | some state =>
    let removed := state.removeSubscriber index
    let next :=
      if removed.localCount = 0 then hub.maybeStartOrStopPoll subscription.nodeID removed
      else removed
    { hub.setState subscription.nodeID next with subscriptions := subscriptions }

def close (index : Nat) : Hub :=
  match hub.subscriptions[index]? with
  | none => hub
  | some subscription =>
    if subscription.unsubscribed then hub else hub.unsubscribe index subscription

def handleSubscribersHeartbeat (instanceID : String) (nodeID : Nat) (count : Int) : Hub :=
  if instanceID = hub.instanceID then hub
  else
    let state := hub.getOrCreateState nodeID
    let announced := state.announce instanceID count (hub.clock + hub.heartbeatTTL)
    hub.setState nodeID (hub.maybeStartOrStopPoll nodeID announced)

def stopPollIfStillIdle (nodeID : Nat) : Hub :=
  match hub.states nodeID with
  | none => hub
  | some state => hub.setState nodeID (state.stopPollIfStillIdle hub.clock)

def isSubscriber (index : Nat) (subscription : Subscription) : Bool :=
  match hub.states subscription.nodeID with
  | none => false
  | some state => (state.subscribers.getD []).contains index

def stop : Hub :=
  { hub with
    rootDone := hub.rootDone || hub.startedFlag
    states := fun nodeID => (hub.states nodeID).map NodeState.stop
    subscriptions := hub.subscriptions.mapIdx fun index subscription =>
      if hub.isSubscriber index subscription then { subscription with closed := true }
      else subscription }

end Hub

inductive Call where
  | subscribe (nodeID : Nat)
  | close (subscription : Nat)
  | handleSubscribersHeartbeat (instanceID : String) (nodeID : Nat) (count : Int)
  | stopPollIfStillIdle (nodeID : Nat)
  | stop
  | connect (nodeID : Nat)
  | disconnect (nodeID : Nat)

structure Event where
  elapsed : Nat
  call : Call

namespace Hub

def advance (hub : Hub) (elapsed : Nat) : Hub := { hub with clock := hub.clock + elapsed }

def handle (hub : Hub) : Call → Outcome
  | .subscribe nodeID => hub.subscribe nodeID
  | .close subscription => .returned (hub.close subscription)
  | .handleSubscribersHeartbeat instanceID nodeID count =>
    .returned (hub.handleSubscribersHeartbeat instanceID nodeID count)
  | .stopPollIfStillIdle nodeID => .returned (hub.stopPollIfStillIdle nodeID)
  | .stop => .returned hub.stop
  | .connect nodeID =>
    .returned { hub with connected := Function.update hub.connected nodeID true }
  | .disconnect nodeID =>
    .returned { hub with connected := Function.update hub.connected nodeID false }

end Hub

def Outcome.step (outcome : Outcome) (event : Event) : Outcome :=
  match outcome with
  | .panicked => .panicked
  | .returned hub => (hub.advance event.elapsed).handle event.call

def startedHub (instanceID : String) (heartbeatTTL : Int) (connected : Nat → Bool) (clock : Int) :
    Hub where
  instanceID := instanceID
  heartbeatTTL := heartbeatTTL
  startedFlag := true
  rootDone := false
  states := fun _ => none
  subscriptions := []
  connected := connected
  clock := clock

end ShadowPanel.Metrics
