import Mathlib.Data.List.Induction
import ShadowPanel.Data.Runs
import ShadowPanel.Grpc.Registry

namespace ShadowPanel.Grpc

open Data List

/-! Several instances of the panel: each has a registry, and what a registry
publishes is delivered to all of them in the order of publication. -/

/-- One instance.  `pending` are the events that it has still to publish:
`Register` and `Unregister` publish after they have changed the sessions.
`delivered` counts the published events that it has handled. -/
structure Panel where
  registry : Registry
  pending : List SessionEvent
  delivered : Nat

namespace Panel

variable (panel : Panel)

def register (session : Session) (now : Int) : Panel :=
  { panel with
    registry := (panel.registry.register now session).1
    pending := panel.pending ++ [(panel.registry.register now session).2] }

def unregister (nodeID : Nat) : Panel :=
  { panel with
    registry := (panel.registry.unregister nodeID).1
    pending := panel.pending ++ (panel.registry.unregister nodeID).2.toList }

def withdraw (index : Nat) : Panel := { panel with pending := panel.pending.eraseIdx index }

def deliver (event : SessionEvent) : Panel :=
  { panel with
    registry := panel.registry.handleSessionEvent event
    delivered := panel.delivered + 1 }

def Holds (nodeID : Nat) : Prop := panel.registry.isConnected nodeID = true

def WillConnect (nodeID : Nat) : Prop :=
  ∃ payload, .connected payload ∈ panel.pending ∧ payload.nodeID = nodeID

def WillClose (nodeID : Nat) : Prop :=
  ∃ payload, .closed payload ∈ panel.pending ∧ payload.nodeID = nodeID

end Panel

structure Cluster where
  panels : String → Panel
  published : List SessionEvent

inductive ClusterEvent where
  | register (instanceID : String) (session : Session) (now : Int)
  | unregister (instanceID : String) (nodeID : Nat)
  | publish (instanceID : String) (index : Nat)
  | deliver (instanceID : String)

def ClusterEvent.instanceID : ClusterEvent → String
  | .register instanceID _ _ => instanceID
  | .unregister instanceID _ => instanceID
  | .publish instanceID _ => instanceID
  | .deliver instanceID => instanceID

namespace Cluster

def start : Cluster where
  panels instanceID := ⟨.start instanceID, [], 0⟩
  published := []

variable (cluster : Cluster)

def setPanel (instanceID : String) (panel : Panel) : Cluster :=
  { cluster with panels := Function.update cluster.panels instanceID panel }

def step : ClusterEvent → Cluster
  | .register instanceID session now =>
    cluster.setPanel instanceID ((cluster.panels instanceID).register session now)
  | .unregister instanceID nodeID =>
    cluster.setPanel instanceID ((cluster.panels instanceID).unregister nodeID)
  | .publish instanceID index =>
    match (cluster.panels instanceID).pending[index]? with
    | none => cluster
    | some event =>
      { cluster.setPanel instanceID ((cluster.panels instanceID).withdraw index) with
        published := cluster.published ++ [event] }
  | .deliver instanceID =>
    match cluster.published[(cluster.panels instanceID).delivered]? with
    | none => cluster
    | some event => cluster.setPanel instanceID ((cluster.panels instanceID).deliver event)

private theorem panels_step_of_ne {cluster : Cluster} (other : name ≠ event.instanceID) :
    (cluster.step event).panels name = cluster.panels name := by
  cases event with
  | register | unregister => exact Function.update_of_ne other _ _
  | publish instanceID index | deliver instanceID =>
    simp only [step]
    split
    · rfl
    · exact Function.update_of_ne other _ _

private theorem panels_run_of_idle {cluster : Cluster}
    (idle : ∀ event ∈ events, name ≠ event.instanceID) :
    (run step cluster events).panels name = cluster.panels name := by
  induction events generalizing cluster with
  | nil => rfl
  | cons event rest ih =>
    refine Eq.trans ?_ (panels_step_of_ne (idle event mem_cons_self))
    exact ih fun other member => idle other (mem_cons_of_mem _ member)

/-- A closed event is published while every instance that holds a session of the
node has still to say so; a connected event while its instance holds one, or has
still to say that it is closed. -/
def Timely (nodeID : Nat) (cluster : Cluster) : ClusterEvent → Prop
  | .publish instanceID index =>
    match (cluster.panels instanceID).pending[index]? with
    | none => True
    | some (.closed payload) => payload.nodeID = nodeID →
        ∀ holder, (cluster.panels holder).Holds nodeID → (cluster.panels holder).WillConnect nodeID
    | some (.connected payload) => payload.nodeID = nodeID →
        (cluster.panels instanceID).Holds nodeID ∨ (cluster.panels instanceID).WillClose nodeID
  | _ => True

def lastOf (nodeID : Nat) (events : List SessionEvent) : Option SessionEvent :=
  events.reverse.find? fun event => event.payload.nodeID == nodeID

@[simp] theorem lastOf_concat (nodeID : Nat) (events : List SessionEvent) (event : SessionEvent) :
    lastOf nodeID (events ++ [event]) =
      if event.payload.nodeID = nodeID then some event else lastOf nodeID events := by
  unfold lastOf
  rw [reverse_append, reverse_singleton, singleton_append, find?_cons]
  split
  next same => simp [beq_iff_eq.mp same]
  next other => simp [beq_eq_false_iff_ne.mp other]

def heard (instanceID : String) (events : List SessionEvent) : Registry :=
  events.foldl Registry.handleSessionEvent (.start instanceID)

@[simp]
theorem heard_concat (instanceID : String) (events : List SessionEvent) (event : SessionEvent) :
    heard instanceID (events ++ [event]) = (heard instanceID events).handleSessionEvent event := by
  simp [heard]

@[simp] theorem instanceID_heard (instanceID : String) (events : List SessionEvent) :
    (heard instanceID events).instanceID = instanceID := by
  induction events using reverseRecOn with
  | nil => rfl
  | append_singleton events event ih => simp [ih]

theorem globalNodes_heard (instanceID : String) (nodeID : Nat) (events : List SessionEvent) :
    match lastOf nodeID events with
    | some (.connected payload) => payload.instanceID ≠ instanceID →
        (heard instanceID events).globalNodes nodeID = some payload.instanceID
    | _ => (heard instanceID events).globalNodes nodeID = none := by
  induction events using reverseRecOn with
  | nil => rfl
  | append_singleton events event ih =>
    rw [lastOf_concat, heard_concat]
    by_cases own : event.payload.nodeID = nodeID
    · rw [if_pos own]
      cases event with
      | connected payload =>
        intro other
        have same : payload.nodeID = nodeID := own
        simp [Registry.handleSessionEvent, other, same]
      | closed payload =>
        have same : payload.nodeID = nodeID := own
        simp [Registry.handleSessionEvent, same]
    · rw [if_neg own, Registry.globalNodes_handleSessionEvent_of_ne (Ne.symm own)]
      exact ih

end Cluster

namespace Panel

open Cluster

structure Proper (published : List SessionEvent) (instanceID : String) (panel : Panel) : Prop where
  named : panel.registry.instanceID = instanceID
  own : ∀ event ∈ panel.pending, event.payload.instanceID = instanceID
  bounded : panel.delivered ≤ published.length
  known : panel.registry.globalNodes =
    (heard instanceID (published.take panel.delivered)).globalNodes

variable {published : List SessionEvent} {panel : Panel}

section

variable (proper : panel.Proper published instanceID)

include proper

theorem Proper.register (session : Session) (now : Int) :
    (panel.register session now).Proper published instanceID := by
  refine ⟨proper.named, ?_, proper.bounded, proper.known⟩
  intro event member
  cases mem_append.mp member with
  | inl old => exact proper.own event old
  | inr new =>
    rw [mem_singleton.mp new]
    exact proper.named

theorem Proper.unregister (nodeID : Nat) :
    (panel.unregister nodeID).Proper published instanceID := by
  refine ⟨proper.named, ?_, proper.bounded, proper.known⟩
  intro event member
  cases mem_append.mp member with
  | inl old => exact proper.own event old
  | inr new =>
    obtain ⟨session, _, rfl⟩ := Option.map_eq_some_iff.mp (Option.mem_toList.mp new)
    exact proper.named

theorem Proper.withdraw (index : Nat) : (panel.withdraw index).Proper published instanceID := by
  refine ⟨proper.named, ?_, proper.bounded, proper.known⟩
  intro event member
  exact proper.own event (mem_of_mem_eraseIdx member)

theorem Proper.extend (event : SessionEvent) : panel.Proper (published ++ [event]) instanceID := by
  refine ⟨proper.named, proper.own, ?_, ?_⟩
  · rw [length_append]
    exact Nat.le_trans proper.bounded (Nat.le_add_right _ _)
  · rw [take_append_of_le_length proper.bounded]
    exact proper.known

theorem Proper.deliver (next : published[panel.delivered]? = some event) :
    (panel.deliver event).Proper published instanceID := by
  obtain ⟨within, found⟩ := List.getElem?_eq_some_iff.mp next
  refine ⟨?_, proper.own, within, ?_⟩
  · rw [Panel.deliver, Registry.instanceID_handleSessionEvent]
    exact proper.named
  · have handled : published.take (panel.delivered + 1) =
        published.take panel.delivered ++ [event] := by
      rw [take_add_one, next, Option.toList_some]
    rw [Panel.deliver, handled, heard_concat]
    refine Registry.globalNodes_handleSessionEvent_congr ?_ proper.known event
    rw [proper.named, instanceID_heard]

end

structure Follows (nodeID : Nat) (panel next : Panel) : Prop where
  gained : next.Holds nodeID → panel.Holds nodeID ∨ next.WillConnect nodeID
  lost : panel.Holds nodeID → next.Holds nodeID ∨ next.WillClose nodeID
  connect : panel.WillConnect nodeID → next.WillConnect nodeID
  close : panel.WillClose nodeID → next.WillClose nodeID

theorem Follows.refl (nodeID : Nat) (panel : Panel) : Follows nodeID panel panel :=
  ⟨.inl, .inl, id, id⟩

theorem WillConnect.append {nodeID : Nat} {next : Panel}
    (appended : next.pending = panel.pending ++ events) (will : panel.WillConnect nodeID) :
    next.WillConnect nodeID := by
  obtain ⟨payload, member, same⟩ := will
  exact ⟨payload, appended ▸ mem_append_left _ member, same⟩

theorem WillClose.append {nodeID : Nat} {next : Panel}
    (appended : next.pending = panel.pending ++ events) (will : panel.WillClose nodeID) :
    next.WillClose nodeID := by
  obtain ⟨payload, member, same⟩ := will
  exact ⟨payload, appended ▸ mem_append_left _ member, same⟩

private theorem follows_register (nodeID : Nat) (panel : Panel) (session : Session) (now : Int) :
    Follows nodeID panel (panel.register session now) := by
  refine ⟨?_, ?_, .append rfl, .append rfl⟩
  · intro holds
    by_cases same : nodeID = session.nodeID
    · exact .inr ⟨_, mem_append_right _ (mem_singleton_self _), same.symm⟩
    · left
      rwa [Holds, Panel.register, Registry.isConnected,
        Registry.getSession_register_of_ne now same] at holds
  · intro holds
    left
    rw [Holds, Panel.register, Registry.isConnected]
    by_cases same : nodeID = session.nodeID
    · rw [same, Registry.getSession_register_self]
      rfl
    · rwa [Registry.getSession_register_of_ne now same]

private theorem follows_unregister (nodeID : Nat) (panel : Panel) (removed : Nat) :
    Follows nodeID panel (panel.unregister removed) := by
  refine ⟨?_, ?_, .append rfl, .append rfl⟩
  · intro holds
    left
    rw [Holds, Panel.unregister, Registry.isConnected] at holds
    by_cases same : nodeID = removed
    · rw [same, Registry.getSession_unregister_self] at holds
      cases holds
    · rwa [Registry.getSession_unregister_of_ne same] at holds
  · intro holds
    by_cases same : nodeID = removed
    · subst same
      obtain ⟨session, found⟩ := Option.isSome_iff_exists.mp holds
      refine .inr ⟨⟨nodeID, panel.registry.instanceID, session.version, session.connectedAt⟩,
        mem_append_right _ ?_, rfl⟩
      simp [Registry.unregister, found]
    · left
      rwa [Holds, Panel.unregister, Registry.isConnected, Registry.getSession_unregister_of_ne same]

private theorem follows_deliver (nodeID : Nat) (panel : Panel) (event : SessionEvent) :
    Follows nodeID panel (panel.deliver event) := by
  have holds : (panel.deliver event).Holds nodeID ↔ panel.Holds nodeID := by
    rw [Holds, Holds, Panel.deliver, Registry.isConnected, Registry.isConnected,
      Registry.getSession, Registry.getSession, Registry.localSessions_handleSessionEvent]
  exact ⟨fun next => .inl (holds.mp next), fun old => .inl (holds.mpr old), id, id⟩

variable {index : Nat} (found : panel.pending[index]? = some event)

include found

theorem mem_withdraw (apart : other ≠ event) (member : other ∈ panel.pending) :
    other ∈ (panel.withdraw index).pending := by
  obtain ⟨place, placed⟩ := mem_iff_getElem?.mp member
  refine mem_eraseIdx_iff_getElem?.mpr ⟨place, ?_, placed⟩
  intro same
  rw [same, found] at placed
  exact apart (Option.some.inj placed).symm

theorem WillConnect.withdraw {nodeID : Nat}
    (apart : ∀ payload, event = .connected payload → payload.nodeID ≠ nodeID)
    (will : panel.WillConnect nodeID) : (panel.withdraw index).WillConnect nodeID := by
  obtain ⟨payload, member, same⟩ := will
  refine ⟨payload, mem_withdraw found ?_ member, same⟩
  intro equal
  exact apart payload equal.symm same

theorem WillClose.withdraw {nodeID : Nat}
    (apart : ∀ payload, event = .closed payload → payload.nodeID ≠ nodeID)
    (will : panel.WillClose nodeID) : (panel.withdraw index).WillClose nodeID := by
  obtain ⟨payload, member, same⟩ := will
  refine ⟨payload, mem_withdraw found ?_ member, same⟩
  intro equal
  exact apart payload equal.symm same

private theorem follows_withdraw {nodeID : Nat} (other : event.payload.nodeID ≠ nodeID) :
    Follows nodeID panel (panel.withdraw index) := by
  refine ⟨.inl, .inl, .withdraw found ?_, .withdraw found ?_⟩
  · intro payload equal
    subst equal
    exact other
  · intro payload equal
    subst equal
    exact other

end Panel

namespace Cluster

variable (cluster : Cluster)

/-- After a connected event its instance holds a session or has still to close
it; otherwise every instance that holds one has still to say so. -/
def Announced (nodeID : Nat) : Prop :=
  match lastOf nodeID cluster.published with
  | some (.connected payload) =>
    (cluster.panels payload.instanceID).Holds nodeID ∨
      (cluster.panels payload.instanceID).WillClose nodeID
  | _ => ∀ holder, (cluster.panels holder).Holds nodeID → (cluster.panels holder).WillConnect nodeID

structure Tracks (nodeID : Nat) (cluster : Cluster) : Prop where
  proper : ∀ instanceID, (cluster.panels instanceID).Proper cluster.published instanceID
  announced : cluster.Announced nodeID

variable {cluster} {panel : Panel}

theorem tracks_start (nodeID : Nat) : Tracks nodeID start := by
  constructor
  · intro instanceID
    exact ⟨rfl, by simp [start], Nat.le_refl 0, rfl⟩
  · intro holder holds
    cases holds

theorem Announced.follow {next : Cluster} (announced : cluster.Announced nodeID)
    (same : lastOf nodeID next.published = lastOf nodeID cluster.published)
    (follows : ∀ name, (cluster.panels name).Follows nodeID (next.panels name)) :
    next.Announced nodeID := by
  unfold Announced at announced ⊢
  rw [same]
  split
  next payload last =>
    rw [last] at announced
    cases announced with
    | inl holds => exact (follows _).lost holds
    | inr will => exact .inr ((follows _).close will)
  next last notConnected =>
    have everywhere : ∀ holder, (cluster.panels holder).Holds nodeID →
        (cluster.panels holder).WillConnect nodeID := by
      split at announced
      next payload connected => exact absurd connected (notConnected payload)
      next => exact announced
    intro holder holds
    cases (follows holder).gained holds with
    | inl old => exact (follows holder).connect (everywhere holder old)
    | inr will => exact will

theorem follows_setPanel (follows : (cluster.panels instanceID).Follows nodeID panel) :
    ∀ name, (cluster.panels name).Follows nodeID
      ((cluster.setPanel instanceID panel).panels name) :=
  (Function.forall_update_iff cluster.panels
    (fun name panel => (cluster.panels name).Follows nodeID panel)).mpr
    ⟨follows, fun name _ => .refl nodeID (cluster.panels name)⟩

theorem proper_setPanel {published : List SessionEvent} (proper : panel.Proper published instanceID)
    (others : ∀ name, (cluster.panels name).Proper published name) :
    ∀ name, ((cluster.setPanel instanceID panel).panels name).Proper published name :=
  (Function.forall_update_iff cluster.panels (fun name panel => panel.Proper published name)).mpr
    ⟨proper, fun name _ => others name⟩

theorem Tracks.setPanel (tracks : Tracks nodeID cluster)
    (proper : panel.Proper cluster.published instanceID)
    (follows : (cluster.panels instanceID).Follows nodeID panel) :
    Tracks nodeID (cluster.setPanel instanceID panel) :=
  ⟨proper_setPanel proper tracks.proper, tracks.announced.follow rfl (follows_setPanel follows)⟩

theorem Tracks.publish (tracks : Tracks nodeID cluster)
    (timely : Timely nodeID cluster (.publish instanceID index)) :
    Tracks nodeID (cluster.step (.publish instanceID index)) := by
  cases found : (cluster.panels instanceID).pending[index]? with
  | none =>
    simp only [step, found]
    exact tracks
  | some event =>
    have proper : ∀ name, ((cluster.step (.publish instanceID index)).panels name).Proper
        (cluster.published ++ [event]) name := by
      simp only [step, found]
      exact proper_setPanel (((tracks.proper instanceID).withdraw index).extend event)
        fun name => (tracks.proper name).extend event
    refine ⟨by simpa only [step, found] using proper, ?_⟩
    by_cases about : event.payload.nodeID = nodeID
    · simp only [Announced, step, found, lastOf_concat, if_pos about]
      simp only [Timely, found] at timely
      have speaker : event.payload.instanceID = instanceID :=
        (tracks.proper instanceID).own event (mem_of_getElem? found)
      cases event with
      | connected payload =>
        have same : payload.instanceID = instanceID := speaker
        simp only [same, Cluster.setPanel, Function.update_self]
        exact (timely about).imp_right (.withdraw found (by simp))
      | closed payload =>
        refine (Function.forall_update_iff cluster.panels
          (fun _ panel => panel.Holds nodeID → panel.WillConnect nodeID)).mpr ⟨?_, ?_⟩
        · intro holds
          exact .withdraw found (by simp) (timely about instanceID holds)
        · intro holder _
          exact timely about holder
    · have follows := Panel.follows_withdraw found about
      refine tracks.announced.follow ?_ ?_
      · simp only [step, found, lastOf_concat, if_neg about]
      · simp only [step, found]
        exact follows_setPanel follows

theorem Tracks.step (tracks : Tracks nodeID cluster) (event : ClusterEvent)
    (timely : Timely nodeID cluster event) : Tracks nodeID (cluster.step event) := by
  cases event with
  | register instanceID session now =>
    exact tracks.setPanel ((tracks.proper instanceID).register session now)
      (Panel.follows_register nodeID _ session now)
  | unregister instanceID removed =>
    exact tracks.setPanel ((tracks.proper instanceID).unregister removed)
      (Panel.follows_unregister nodeID _ removed)
  | publish instanceID index => exact tracks.publish timely
  | deliver instanceID =>
    cases next : cluster.published[(cluster.panels instanceID).delivered]? with
    | none =>
      simp only [Cluster.step, next]
      exact tracks
    | some event =>
      simp only [Cluster.step, next]
      exact tracks.setPanel ((tracks.proper instanceID).deliver next)
        (Panel.follows_deliver nodeID _ event)

private theorem proper_step (proper : ∀ name, (cluster.panels name).Proper cluster.published name)
    (event : ClusterEvent) (name : String) :
    ((cluster.step event).panels name).Proper (cluster.step event).published name := by
  cases event with
  | register instanceID session now =>
    exact proper_setPanel ((proper instanceID).register session now) proper name
  | unregister instanceID nodeID =>
    exact proper_setPanel ((proper instanceID).unregister nodeID) proper name
  | publish instanceID index =>
    simp only [step]
    split
    · exact proper name
    next event _ =>
      exact proper_setPanel (((proper instanceID).withdraw index).extend event)
        (fun name => (proper name).extend event) name
  | deliver instanceID =>
    simp only [step]
    split
    · exact proper name
    next next => exact proper_setPanel ((proper instanceID).deliver next) proper name

/-- An instance believes of a node what the last event about it says that it has handled. -/
theorem globalNodes_run (events : List ClusterEvent) (instanceID : String) (nodeID : Nat) :
    let cluster : Cluster := run step start events
    let panel := cluster.panels instanceID
    match lastOf nodeID (cluster.published.take panel.delivered) with
    | some (.connected payload) => payload.instanceID ≠ instanceID →
        panel.registry.globalNodes nodeID = some payload.instanceID
    | _ => panel.registry.globalNodes nodeID = none := by
  intro cluster panel
  have proper : ∀ name, (cluster.panels name).Proper cluster.published name :=
    foldlRecOn
      (motive := fun cluster => ∀ name, (cluster.panels name).Proper cluster.published name)
      events step (tracks_start nodeID).proper fun _ proper event _ => proper_step proper event
  rw [(proper instanceID).known]
  exact globalNodes_heard instanceID nodeID _

private theorem not_willConnect_of_silent (silent : panel.pending = []) :
    ¬ panel.WillConnect nodeID := by
  intro will
  obtain ⟨payload, member, _⟩ := will
  rw [silent] at member
  cases member

private theorem not_willClose_of_silent (silent : panel.pending = []) :
    ¬ panel.WillClose nodeID := by
  intro will
  obtain ⟨payload, member, _⟩ := will
  rw [silent] at member
  cases member

def movedNode : Cluster :=
  run step start
    [.register "A" ⟨7, 0, "v1.0", 0⟩ 0, .publish "A" 0, .register "B" ⟨7, 1, "v1.0", 5⟩ 5,
      .publish "B" 0, .unregister "A" 7, .publish "A" 0, .deliver "C", .deliver "C",
      .deliver "C"]

theorem movedNode_forgotten : movedNode.published.length = (movedNode.panels "C").delivered ∧
    (movedNode.panels "B").registry.isConnected 7 = true ∧
    (movedNode.panels "C").registry.isConnectedAnywhere 7 = false := by
  decide

/-- When every instance has published its events, in time, an instance that has
handled them all knows whether one of them holds a session of the node. -/
theorem connectedAnywhere_iff_held {events : List ClusterEvent} {reached : Cluster}
    (timely : Along step (Timely nodeID) start events) (reaches : run step start events = reached)
    (silent : ∀ instanceID, (reached.panels instanceID).pending = []) (instanceID : String)
    (delivered : (reached.panels instanceID).delivered = reached.published.length) :
    (reached.panels instanceID).registry.isConnectedAnywhere nodeID = true ↔
      ∃ holder, (reached.panels holder).registry.isConnected nodeID = true := by
  have tracks : Tracks nodeID reached := by
    rw [← reaches]
    exact timely.invariant (fun _ event timely tracks => tracks.step event timely)
      (tracks_start nodeID)
  have known := globalNodes_heard instanceID nodeID reached.published
  have same := (tracks.proper instanceID).known
  rw [delivered, take_length] at same
  rw [← same] at known
  have announced := tracks.announced
  unfold Announced at announced
  split at announced
  next payload last =>
    rw [last] at known
    have holds : (reached.panels payload.instanceID).Holds nodeID := by
      cases announced with
      | inl holds => exact holds
      | inr will => exact absurd will (not_willClose_of_silent (silent _))
    refine iff_of_true ?_ ⟨payload.instanceID, holds⟩
    unfold Registry.isConnectedAnywhere
    by_cases own : payload.instanceID = instanceID
    · rw [← own]
      exact Bool.or_eq_true_iff.mpr (.inl holds)
    · rw [known own]
      exact Bool.or_eq_true_iff.mpr (.inr rfl)
  next last notConnected =>
    have unknown : (reached.panels instanceID).registry.globalNodes nodeID = none := by
      split at known
      next payload connected => exact absurd connected (notConnected payload)
      next => exact known
    have unheld (holder : String) : ¬ (reached.panels holder).registry.isConnected nodeID = true :=
      fun holds => not_willConnect_of_silent (silent holder) (announced holder holds)
    refine iff_of_false ?_ ?_
    · unfold Registry.isConnectedAnywhere
      rw [unknown, Option.isSome_none, Bool.or_false]
      exact unheld instanceID
    · intro held
      obtain ⟨holder, holds⟩ := held
      exact unheld holder holds

def calmMove : List ClusterEvent :=
  [.register "A" ⟨7, 0, "v1.0", 0⟩ 0, .publish "A" 0, .register "B" ⟨7, 1, "v1.0", 5⟩ 5,
    .unregister "A" 7, .publish "A" 0, .publish "B" 0, .deliver "C", .deliver "C", .deliver "C"]

theorem connectedAnywhere_iff_held_calmMove :
    ((run step start calmMove).panels "C").registry.isConnectedAnywhere 7 = true := by
  refine (connectedAnywhere_iff_held ?timely rfl ?silent "C" rfl).mpr ⟨"B", rfl⟩
  case timely =>
    refine ⟨trivial, fun _ => .inl rfl, trivial, trivial, ?_, fun _ => .inl rfl, trivial,
      trivial, trivial, trivial⟩
    intro _ holder holds
    by_cases atB : holder = "B"
    · subst atB
      exact ⟨_, mem_singleton_self _, rfl⟩
    · by_cases atA : holder = "A"
      · subst atA
        cases holds
      · have idle : ((run step start (calmMove.take 4)).panels holder) = start.panels holder :=
          panels_run_of_idle (by simp [calmMove, ClusterEvent.instanceID, atA, atB])
        have none : (start.panels holder).Holds 7 := idle ▸ holds
        cases none
  case silent =>
    intro name
    by_cases named : name = "A" ∨ name = "B" ∨ name = "C"
    · rcases named with rfl | rfl | rfl <;> rfl
    · simp only [not_or] at named
      rw [panels_run_of_idle (by simp [calmMove, ClusterEvent.instanceID, named])]
      rfl

end Cluster

end ShadowPanel.Grpc
