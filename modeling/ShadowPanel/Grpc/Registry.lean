import Mathlib.Logic.Function.Basic

namespace ShadowPanel.Grpc

/-! The registry of daemon sessions of `internal/grpc/session/registry.go`. -/

structure Session where
  nodeID : Nat
  stream : Nat
  version : String
  connectedAt : Int
  deriving DecidableEq

structure DaemonSessionPayload where
  nodeID : Nat
  instanceID : String
  version : String
  connectedAt : Int

inductive SessionEvent where
  | connected (payload : DaemonSessionPayload)
  | closed (payload : DaemonSessionPayload)

def SessionEvent.payload : SessionEvent → DaemonSessionPayload
  | .connected payload => payload
  | .closed payload => payload

structure Registry where
  instanceID : String
  localSessions : Nat → Option Session
  globalNodes : Nat → Option String

namespace Registry

def start (instanceID : String) : Registry where
  instanceID := instanceID
  localSessions := fun _ => none
  globalNodes := fun _ => none

variable (registry : Registry)

def getSession (nodeID : Nat) : Option Session := registry.localSessions nodeID

def isConnected (nodeID : Nat) : Bool := (registry.getSession nodeID).isSome

def isConnectedAnywhere (nodeID : Nat) : Bool :=
  registry.isConnected nodeID || (registry.globalNodes nodeID).isSome

def register (now : Int) (session : Session) : Registry × SessionEvent :=
  ({ registry with
      localSessions := Function.update registry.localSessions session.nodeID (some session) },
    .connected ⟨session.nodeID, registry.instanceID, session.version, now⟩)

def unregister (nodeID : Nat) : Registry × Option SessionEvent :=
  ({ registry with localSessions := Function.update registry.localSessions nodeID none },
    (registry.getSession nodeID).map fun session =>
      .closed ⟨nodeID, registry.instanceID, session.version, session.connectedAt⟩)

def handleSessionEvent : SessionEvent → Registry
  | .connected payload =>
    if payload.instanceID = registry.instanceID then registry
    else
      { registry with
        globalNodes := Function.update registry.globalNodes payload.nodeID
          (some payload.instanceID) }
  | .closed payload =>
    { registry with globalNodes := Function.update registry.globalNodes payload.nodeID none }

variable {registry}

@[simp] theorem getSession_register_self (now : Int) (session : Session) :
    (registry.register now session).1.getSession session.nodeID = some session := by
  simp [register, getSession]

theorem getSession_register_of_ne (now : Int) (other : nodeID ≠ session.nodeID) :
    (registry.register now session).1.getSession nodeID = registry.getSession nodeID := by
  simp [register, getSession, other]

@[simp]
theorem getSession_unregister_self : (registry.unregister nodeID).1.getSession nodeID = none := by
  simp [unregister, getSession]

theorem getSession_unregister_of_ne (other : nodeID ≠ removed) :
    (registry.unregister removed).1.getSession nodeID = registry.getSession nodeID := by
  simp [unregister, getSession, other]

@[simp] theorem instanceID_handleSessionEvent (event : SessionEvent) :
    (registry.handleSessionEvent event).instanceID = registry.instanceID := by
  cases event with
  | connected payload =>
    simp only [handleSessionEvent]
    split <;> rfl
  | closed payload => rfl

@[simp] theorem localSessions_handleSessionEvent (event : SessionEvent) :
    (registry.handleSessionEvent event).localSessions = registry.localSessions := by
  cases event with
  | connected payload =>
    simp only [handleSessionEvent]
    split <;> rfl
  | closed payload => rfl

theorem globalNodes_handleSessionEvent_congr {other : Registry}
    (sameID : registry.instanceID = other.instanceID)
    (same : registry.globalNodes = other.globalNodes) (event : SessionEvent) :
    (registry.handleSessionEvent event).globalNodes =
      (other.handleSessionEvent event).globalNodes := by
  cases event with
  | connected payload =>
    simp only [handleSessionEvent, sameID]
    split
    · exact same
    · simp only [same]
  | closed payload => simp only [handleSessionEvent, same]

theorem globalNodes_handleSessionEvent_of_ne (other : nodeID ≠ event.payload.nodeID) :
    (registry.handleSessionEvent event).globalNodes nodeID = registry.globalNodes nodeID := by
  cases event with
  | connected payload =>
    simp only [handleSessionEvent]
    split
    · rfl
    · exact Function.update_of_ne other _ _
  | closed payload => exact Function.update_of_ne other _ _

end Registry

end ShadowPanel.Grpc
