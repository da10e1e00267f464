import ShadowPanel.Data.Runs
import ShadowPanel.Grpc.Registry

namespace ShadowPanel.Grpc

open Data

/-! The `Connect` handlers of `internal/grpc/gateway/service.go` on one instance:
each registers a session and unregisters its node when it ends. -/

structure Connect where
  session : Session
  cancelled : Bool
  ended : Bool

structure Gateway where
  registry : Registry
  connects : List Connect

inductive GatewayEvent where
  | register (nodeID : Nat) (version : String) (now : Int)
  | finish (stream : Nat)

namespace Gateway

def start (instanceID : String) : Gateway where
  registry := .start instanceID
  connects := []

variable (gateway : Gateway)

def newSession (nodeID : Nat) (version : String) (now : Int) : Session where
  nodeID := nodeID
  stream := gateway.connects.length
  version := version
  connectedAt := now

def cancel (nodeID : Nat) (connect : Connect) : Connect :=
  if gateway.registry.getSession nodeID = some connect.session then
    { connect with cancelled := true }
  else connect

def ending (stream : Nat) : Option Connect :=
  gateway.connects.find? fun connect => connect.session.stream == stream && !connect.ended

def endOf (stream : Nat) (connect : Connect) : Connect :=
  if connect.session.stream = stream then { connect with ended := true } else connect

/-- A handler may end at any time: its stream breaks, its session is cancelled or
the panel shuts down.  The deferred call names the node, not the session. -/
def step : GatewayEvent → Gateway
  | .register nodeID version now =>
    { registry := (gateway.registry.register now (gateway.newSession nodeID version now)).1
      connects := ⟨gateway.newSession nodeID version now, false, false⟩ ::
        gateway.connects.map (gateway.cancel nodeID) }
  | .finish stream =>
    match gateway.ending stream with
    | none => gateway
    | some connect =>
      { registry := (gateway.registry.unregister connect.session.nodeID).1
        connects := gateway.connects.map (endOf stream) }

def latest (nodeID : Nat) : Option Connect :=
  gateway.connects.find? fun connect => connect.session.nodeID == nodeID

def LatestFound (nodeID : Nat) : Prop :=
  ∀ connect, gateway.latest nodeID = some connect → connect.ended = false →
    gateway.registry.getSession nodeID = some connect.session

/-- A handler that ends is the one that registered last, or that one has ended
already. -/
def Orderly (nodeID : Nat) (gateway : Gateway) : GatewayEvent → Prop
  | .register _ _ _ => True
  | .finish stream =>
    ∀ connect last, gateway.ending stream = some connect → connect.session.nodeID = nodeID →
      gateway.latest nodeID = some last → last.session.stream = stream ∨ last.ended = true

variable {gateway}

theorem latest_map {connects : List Connect} {change : Connect → Connect}
    (kept : ∀ connect, (change connect).session = connect.session) :
    (connects.map change).find? (fun connect => connect.session.nodeID == nodeID) =
      (connects.find? fun connect => connect.session.nodeID == nodeID).map change := by
  rw [List.find?_map]
  congr 2
  funext connect
  simp [kept]

@[simp] theorem session_cancel (connect : Connect) :
    (gateway.cancel nodeID connect).session = connect.session := by
  unfold cancel
  split <;> rfl

@[simp] theorem ended_cancel (connect : Connect) :
    (gateway.cancel nodeID connect).ended = connect.ended := by
  unfold cancel
  split <;> rfl

@[simp] theorem session_endOf (stream : Nat) (connect : Connect) :
    (endOf stream connect).session = connect.session := by
  unfold endOf
  split <;> rfl

@[simp] theorem ended_endOf : (endOf stream connect).ended = true ↔
    connect.session.stream = stream ∨ connect.ended = true := by
  unfold endOf
  split
  next same => simp [same]
  next other => simp [other]

theorem LatestFound.register (found : gateway.LatestFound nodeID) (registered : Nat)
    (version : String) (now : Int) :
    (gateway.step (.register registered version now)).LatestFound nodeID := by
  intro connect last running
  by_cases same : registered = nodeID
  · subst same
    have new : connect = ⟨gateway.newSession registered version now, false, false⟩ := by
      simpa [step, latest, newSession, eq_comm] using last
    subst new
    exact Registry.getSession_register_self now (gateway.newSession registered version now)
  · have earlier : (gateway.latest nodeID).map (gateway.cancel registered) = some connect := by
      rw [← last, latest, step, latest, List.find?_cons_of_neg (by simpa [newSession] using same)]
      exact (latest_map session_cancel).symm
    obtain ⟨old, oldLast, rfl⟩ := Option.map_eq_some_iff.mp earlier
    rw [ended_cancel] at running
    have other : nodeID ≠ (gateway.newSession registered version now).nodeID :=
      fun equal => same equal.symm
    calc (gateway.step (.register registered version now)).registry.getSession nodeID
        _ = gateway.registry.getSession nodeID := Registry.getSession_register_of_ne now other
        _ = some old.session := found old oldLast running
        _ = some (gateway.cancel registered old).session := by simp

section

theorem latest_finish (ends : gateway.ending stream = some connect) :
    (gateway.step (.finish stream)).latest nodeID = (gateway.latest nodeID).map (endOf stream) := by
  simp only [step, ends]
  exact latest_map (session_endOf stream)

theorem latestFound_finish_iff_of_eq (ends : gateway.ending stream = some connect)
    (own : connect.session.nodeID = nodeID) :
    Orderly nodeID gateway (.finish stream) ↔
      (gateway.step (.finish stream)).LatestFound nodeID := by
  have removed : (gateway.step (.finish stream)).registry.getSession nodeID = none := by
    simp only [step, ends, own]
    exact Registry.getSession_unregister_self
  constructor
  · intro orderly next isLast running
    rw [latest_finish ends] at isLast
    obtain ⟨old, oldLast, rfl⟩ := Option.map_eq_some_iff.mp isLast
    rw [ended_endOf.mpr (orderly connect old ends own oldLast)] at running
    cases running
  · intro kept _ old _ _ oldLast
    rw [← ended_endOf]
    by_contra running
    have isLast : (gateway.step (.finish stream)).latest nodeID = some (endOf stream old) := by
      rw [latest_finish ends, oldLast, Option.map_some]
    have there := kept _ isLast (Bool.eq_false_iff.mpr running)
    rw [removed] at there
    cases there

theorem LatestFound.finish_of_ne (found : gateway.LatestFound nodeID)
    (ends : gateway.ending stream = some connect) (other : connect.session.nodeID ≠ nodeID) :
    (gateway.step (.finish stream)).LatestFound nodeID := by
  intro next isLast running
  rw [latest_finish ends] at isLast
  obtain ⟨old, oldLast, rfl⟩ := Option.map_eq_some_iff.mp isLast
  have oldRunning : old.ended = false := by
    rw [Bool.eq_false_iff] at running ⊢
    exact fun ended => running (ended_endOf.mpr (.inr ended))
  calc (gateway.step (.finish stream)).registry.getSession nodeID
      _ = gateway.registry.getSession nodeID := by
          simp only [step, ends]
          exact Registry.getSession_unregister_of_ne (Ne.symm other)
      _ = some old.session := found old oldLast oldRunning
      _ = some (endOf stream old).session := by simp

end

theorem LatestFound.finish_iff (found : gateway.LatestFound nodeID) (stream : Nat) :
    Orderly nodeID gateway (.finish stream) ↔
      (gateway.step (.finish stream)).LatestFound nodeID := by
  cases ends : gateway.ending stream with
  | none => simpa [Orderly, step, ends] using found
  | some connect =>
    by_cases own : connect.session.nodeID = nodeID
    · exact latestFound_finish_iff_of_eq ends own
    · refine iff_of_true ?_ (found.finish_of_ne ends own)
      intro ended _ endedEnds endedOwn
      rw [ends] at endedEnds
      cases endedEnds
      exact absurd endedOwn own

theorem LatestFound.step_iff (found : gateway.LatestFound nodeID) (event : GatewayEvent) :
    Orderly nodeID gateway event ↔ (gateway.step event).LatestFound nodeID := by
  cases event with
  | register registered version now => exact iff_of_true trivial (found.register _ _ _)
  | finish stream => exact found.finish_iff stream

def reconnected : Gateway :=
  run step (start "panel-1") [.register 11 "v1.0" 0, .register 11 "v1.0" 5, .finish 0]

theorem reconnected_session_lost :
    (reconnected.latest 11).map (fun connect => (connect.session.stream, connect.ended)) =
        some (1, false) ∧
      reconnected.registry.getSession 11 = none := by
  decide

/-- The session that was registered last is found in every state in which its
handler has not ended, exactly when every handler of the node ends in order. -/
theorem latest_session_found_iff (instanceID : String) (nodeID : Nat) (events : List GatewayEvent) :
    (∀ first rest, events = first ++ rest →
        (run step (start instanceID) first).LatestFound nodeID) ↔
      Along step (Orderly nodeID) (start instanceID) events := by
  have initially : (start instanceID).LatestFound nodeID := by
    intro connect last
    cases last
  have kept (gateway : Gateway) (event : GatewayEvent) (found : gateway.LatestFound nodeID) :
      Orderly nodeID gateway event ↔ (gateway.step event).LatestFound nodeID :=
    found.step_iff event
  exact (along_iff_always kept initially).symm

end Gateway

end ShadowPanel.Grpc
