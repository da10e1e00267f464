import ShadowPanel.Data.Channels
import ShadowPanel.Data.Programs
import ShadowPanel.Grpc.Handlers

namespace ShadowPanel.Grpc

open Data Data.Program List

/-! Who waits for the result of a command, as in `internal/grpc/handlers/command_handler.go`.
A part of the code under the lock is one call, and so is each use of a channel. -/

inductive CommandOp where
  | register (commandID : String)
  | lookup (commandID : String)
  | send (channel : Nat) (result : CommandResult)
  | publish (event : Published)
  | untrack (commandID : String)
  | unregister (commandID : String)
  | track (commandID : String) (serverID : Nat)

abbrev CommandOp.Answer : CommandOp → Type
  | .register _ => Nat
  | .lookup _ => Option Nat × Option Nat
  | .send _ _ | .publish _ | .untrack _ | .unregister _ | .track _ _ => Unit

abbrev CommandProgram := Program CommandOp CommandOp.Answer Empty

def onCommands (op : CommandOp) : CommandProgram op.Answer := perform op

def registerPendingCommand (commandID : String) : CommandProgram Nat :=
  onCommands (.register commandID)

def unregisterPendingCommand (commandID : String) : CommandProgram Unit :=
  onCommands (.unregister commandID)

def trackCommandServer (commandID : String) (serverID : Nat) : CommandProgram Unit :=
  onCommands (.track commandID serverID)

def untrackCommandServer (commandID : String) : CommandProgram Unit :=
  onCommands (.untrack commandID)

def publishResult (publisher : Bool) (result : CommandResult) : Option Nat → CommandProgram Unit
  | none => pure ()
  | some serverID =>
    if publisher then
      onCommands (.publish (.consoleResult serverID result.commandID result.exitCode result.error))
    else pure ()

def handleCommandResult (publisher : Bool) (result : CommandResult) : CommandProgram Unit := do
  let (pending, server) ← onCommands (.lookup result.commandID)
  match pending with
  | some channel => onCommands (.send channel result)
  | none => pure ()
  publishResult publisher result server
  untrackCommandServer result.commandID

inductive CommandCall where
  | register (commandID : String)
  | handleResult (result : CommandResult)
  | unregister (commandID : String)
  | track (commandID : String) (serverID : Nat)

def CommandCall.program (publisher : Bool) : CommandCall → CommandProgram Unit
  | .register commandID => do
      let _ ← registerPendingCommand commandID
  | .handleResult result => handleCommandResult publisher result
  | .unregister commandID => unregisterPendingCommand commandID
  | .track commandID serverID => trackCommandServer commandID serverID

structure CommandState where
  pending : ChannelTable String CommandResult
  servers : String → Option Nat
  published : List Published

def CommandState.start : CommandState := ⟨.empty, fun _ => none, []⟩

def unregisterChannel (pending : ChannelTable String CommandResult) (commandID : String) :
    ChannelTable String CommandResult :=
  match pending.lookup commandID with
  | none => pending
  | some channel => (pending.close channel).remove commandID

def commandOp (_ : Unit) (state : CommandState) : (op : CommandOp) → CommandState × op.Answer
  | .register commandID =>
    ({ state with pending := state.pending.register commandID }, state.pending.made.length)
  | .lookup commandID => (state, (state.pending.lookup commandID, state.servers commandID))
  | .send channel result => ({ state with pending := state.pending.send channel result }, ())
  | .publish event => ({ state with published := state.published ++ [event] }, ())
  | .untrack commandID =>
    ({ state with servers := Function.update state.servers commandID none }, ())
  | .unregister commandID =>
    ({ state with
        pending := unregisterChannel state.pending commandID
        servers := Function.update state.servers commandID none }, ())
  | .track commandID serverID =>
    ({ state with servers := Function.update state.servers commandID (some serverID) }, ())

abbrev Looked := Option (Nat × String)

def commandRules : Discipline Looked CommandOp CommandOp.Answer where
  allowed looked
    | .send channel result => looked = some (channel, result.commandID)
    | .unregister _ => looked = none
    | _ => True
  possible _ _ := True
  learn looked
    | .lookup commandID, (some channel, _) => some (channel, commandID)
    | .send _ _, _ => none
    | _, _ => looked

abbrev CommandThread := Thread Looked CommandOp CommandOp.Answer Empty Unit

theorem obeys_commandProgram (publisher : Bool) (call : CommandCall) :
    (call.program publisher).Obeys commandRules (fun _ _ => True) none := by
  cases call with
  | register commandID | track commandID serverID => exact ⟨trivial, fun _ _ => trivial⟩
  | unregister commandID => exact ⟨rfl, fun _ _ => trivial⟩
  | handleResult result =>
    have published (looked : Looked) (server : Option Nat) :
        (publishResult publisher result server >>= fun _ =>
          untrackCommandServer result.commandID).Obeys commandRules (fun _ _ => True) looked := by
      cases server with
      | none => exact ⟨trivial, fun _ _ => trivial⟩
      | some serverID =>
        cases publisher with
        | false => exact ⟨trivial, fun _ _ => trivial⟩
        | true => exact ⟨trivial, fun _ _ => ⟨trivial, fun _ _ => trivial⟩⟩
    refine ⟨trivial, ?_⟩
    intro answer _
    obtain ⟨channel, server⟩ := answer
    cases channel with
    | none => exact published none server
    | some channel => exact ⟨rfl, fun _ _ => published none server⟩

def commandAct : Unit → CommandState → CommandThread → CommandState × CommandThread :=
  Thread.act commandRules commandOp

/-- A command is not given up while somebody is between the look-up of its channel and the
send. -/
def UnregistersAlone (_ : Unit) (state : CommandState) (others : List CommandThread)
    (thread : CommandThread) : Prop :=
  match thread.rest with
  | .call (.unregister commandID) _ =>
    ∀ other ∈ others, ∀ looked ∈ other.known, state.pending.lookup commandID ≠ some looked.1
  | _ => True

instance (input : Unit) (state : CommandState) (others : List CommandThread)
    (thread : CommandThread) : Decidable (UnregistersAlone input state others thread) := by
  unfold UnregistersAlone
  split <;> infer_instance

structure CommandsSafe (pending : ChannelTable String CommandResult) : Prop where
  sentWhileOpen : SentWhileOpen pending.log
  delivered : ∀ channel result, .sent channel result ∈ pending.log →
    pending.made[channel]? = some result.commandID

structure OpenFor (pending : ChannelTable String CommandResult) (channel : Nat)
    (commandID : String) : Prop where
  made : pending.made[channel]? = some commandID
  unclosed : pending.log.countP (ChannelEvent.isClosed channel) = 0

structure TableSound (pending : ChannelTable String CommandResult) : Prop where
  entries : ∀ entry ∈ pending.entries, OpenFor pending entry.2 entry.1
  unmade : ∀ channel, pending.made.length ≤ channel →
    pending.log.countP (ChannelEvent.isClosed channel) = 0
  safe : CommandsSafe pending

structure CommandsSound (pool : Pool CommandState CommandThread) : Prop where
  obeys : ∀ thread ∈ pool.calls, thread.rest.Obeys commandRules (fun _ _ => True) thread.known
  looked : ∀ thread ∈ pool.calls, ∀ looked ∈ thread.known,
    OpenFor pool.shared.pending looked.1 looked.2
  table : TableSound pool.shared.pending

section

variable {pending : ChannelTable String CommandResult}

theorem OpenFor.register (isOpen : OpenFor pending channel other) :
    OpenFor (pending.register commandID) channel other := by
  refine ⟨?_, isOpen.unclosed⟩
  obtain ⟨less, _⟩ := List.getElem?_eq_some_iff.mp isOpen.made
  exact (getElem?_append_left less).trans isOpen.made

theorem OpenFor.send (isOpen : OpenFor pending channel other) (used : Nat) :
    OpenFor (pending.send used result) channel other := by
  refine ⟨isOpen.made, ?_⟩
  rw [ChannelTable.send, countP_log_append, isOpen.unclosed]
  rfl

theorem unregisterChannel_of_none (missing : pending.lookup commandID = none) :
    unregisterChannel pending commandID = pending := by
  simp only [unregisterChannel, missing]

theorem unregisterChannel_of_some (found : pending.lookup commandID = some channel) :
    unregisterChannel pending commandID = (pending.close channel).remove commandID := by
  simp only [unregisterChannel, found]

theorem countP_log_close (different : used ≠ channel) :
    (pending.close used).log.countP (ChannelEvent.isClosed channel) =
      pending.log.countP (ChannelEvent.isClosed channel) := by
  rw [ChannelTable.close, countP_log_append, ChannelEvent.isClosed,
    beq_eq_false_iff_ne.mpr different]
  rfl

theorem OpenFor.unregister (isOpen : OpenFor pending channel other)
    (kept : pending.lookup commandID ≠ some channel) :
    OpenFor (unregisterChannel pending commandID) channel other := by
  cases found : pending.lookup commandID with
  | none =>
    rw [unregisterChannel_of_none found]
    exact isOpen
  | some closed =>
    have different : closed ≠ channel := fun same => kept (same ▸ found)
    rw [unregisterChannel_of_some found]
    exact ⟨isOpen.made, (countP_log_close different).trans isOpen.unclosed⟩

namespace TableSound

variable (sound : TableSound pending)

include sound

theorem register : TableSound (pending.register commandID) := by
  refine ⟨?_, ?_, sound.safe.sentWhileOpen, ?_⟩
  · intro entry member
    cases mem_append.mp member with
    | inl kept => exact (sound.entries entry (mem_filter.mp kept).1).register
    | inr last =>
      rw [mem_singleton.mp last]
      exact ⟨getElem?_concat_length, sound.unmade _ (Nat.le_refl _)⟩
  · intro channel beyond
    rw [ChannelTable.register, length_append] at beyond
    exact sound.unmade channel (Nat.le_trans (Nat.le_add_right _ _) beyond)
  · intro channel result member
    have made := sound.safe.delivered channel result member
    obtain ⟨less, _⟩ := List.getElem?_eq_some_iff.mp made
    exact (getElem?_append_left less).trans made

theorem send (isOpen : OpenFor pending channel result.commandID) :
    TableSound (pending.send channel result) := by
  refine ⟨?_, ?_, sentWhileOpen_sent sound.safe.sentWhileOpen isOpen.unclosed, ?_⟩
  · intro entry member
    exact (sound.entries entry member).send channel
  · intro other beyond
    rw [ChannelTable.send, countP_log_append, sound.unmade other beyond]
    rfl
  · intro other message member
    cases mem_append.mp member with
    | inl earlier => exact sound.safe.delivered other message earlier
    | inr last =>
      obtain ⟨rfl, rfl⟩ := ChannelEvent.sent.inj (mem_singleton.mp last)
      exact isOpen.made

theorem unregister : TableSound (unregisterChannel pending commandID) := by
  cases found : pending.lookup commandID with
  | none =>
    rw [unregisterChannel_of_none found]
    exact sound
  | some channel =>
    have own := sound.entries _ (ChannelTable.mem_of_lookup found)
    have closes : ∀ entry ∈ (unregisterChannel pending commandID).entries,
        OpenFor (unregisterChannel pending commandID) entry.2 entry.1 := by
      intro entry member
      rw [unregisterChannel_of_some found] at member
      obtain ⟨kept, differs⟩ := mem_filter.mp member
      refine (sound.entries entry kept).unregister ?_
      intro shared
      have made := (sound.entries entry kept).made
      rw [← Option.some.inj (found.symm.trans shared), own.made] at made
      exact of_decide_eq_true differs (Option.some.inj made).symm
    refine ⟨closes, ?_, ?_⟩
    · intro other beyond
      rw [unregisterChannel_of_some found] at beyond ⊢
      obtain ⟨less, _⟩ := List.getElem?_eq_some_iff.mp own.made
      refine (countP_log_close (Nat.ne_of_lt (Nat.lt_of_lt_of_le less ?_))).trans
        (sound.unmade other ?_)
      · exact beyond
      · exact beyond
    · rw [unregisterChannel_of_some found]
      refine ⟨sentWhileOpen_closed sound.safe.sentWhileOpen, ?_⟩
      intro other message member
      cases mem_append.mp member with
      | inl earlier => exact sound.safe.delivered other message earlier
      | inr last => cases mem_singleton.mp last

end TableSound

theorem commandsSound_act (alone : UnregistersAlone input state (before ++ rest) thread)
    (sound : CommandsSound ⟨state, before ++ thread :: rest⟩) :
    CommandsSound
      ⟨(commandAct input state thread).1, before ++ (commandAct input state thread).2 :: rest⟩ := by
  obtain ⟨obeys, looked, table⟩ := sound
  rw [Pool.forall_calls] at obeys looked
  obtain ⟨others, own⟩ := looked
  suffices keeps : (∀ each ∈ before ++ rest, ∀ looked ∈ each.known,
        OpenFor (commandAct input state thread).1.pending looked.1 looked.2) ∧
      (∀ looked ∈ (commandAct input state thread).2.known,
        OpenFor (commandAct input state thread).1.pending looked.1 looked.2) ∧
      TableSound (commandAct input state thread).1.pending from
    ⟨Pool.forall_calls.mpr ⟨obeys.1, Thread.obeys_act (fun _ _ _ => trivial) obeys.2⟩,
      Pool.forall_calls.mpr ⟨keeps.1, keeps.2.1⟩, keeps.2.2⟩
  obtain ⟨known, program⟩ := thread
  cases program with
  | done result => exact ⟨others, own, table⟩
  | call op next =>
    cases op with
    | register commandID =>
      exact ⟨fun each member looked holds => (others each member looked holds).register,
        fun looked holds => (own looked holds).register, table.register⟩
    | lookup commandID =>
      refine ⟨others, ?_, table⟩
      intro looked holds
      cases found : state.pending.lookup commandID with
      | none =>
        simp only [commandAct, Thread.act, commandOp, found] at holds
        exact own looked holds
      | some channel =>
        simp only [commandAct, Thread.act, commandOp, found] at holds
        obtain rfl := Option.some.inj holds
        exact table.entries _ (ChannelTable.mem_of_lookup found)
    | send channel result =>
      have allowed : known = some (channel, result.commandID) := obeys.2.1
      refine ⟨?_, ?_, table.send (own (channel, result.commandID) allowed)⟩
      · intro each member looked holds
        exact (others each member looked holds).send channel
      · intro looked holds
        cases holds
    | unregister commandID =>
      have idle : known = none := obeys.2.1
      refine ⟨?_, ?_, table.unregister⟩
      · intro each member looked holds
        exact (others each member looked holds).unregister (alone each member looked holds)
      · intro looked holds
        cases idle ▸ holds
    | _ => exact ⟨others, own, table⟩

end

def commandPool (publisher : Bool) (calls : List CommandCall) :
    Pool CommandState CommandThread where
  shared := .start
  calls := calls.map fun call => ⟨none, call.program publisher⟩

theorem commandsSound_commandPool (publisher : Bool) (calls : List CommandCall) :
    CommandsSound (commandPool publisher calls) := by
  have safe : CommandsSafe .empty := ⟨.nil, fun _ _ member => absurd member not_mem_nil⟩
  refine ⟨?_, ?_, fun _ member => absurd member not_mem_nil, fun _ _ => rfl, safe⟩
  · intro thread member
    obtain ⟨call, _, rfl⟩ := mem_map.mp member
    exact obeys_commandProgram publisher call
  · intro thread member looked holds
    obtain ⟨call, _, rfl⟩ := mem_map.mp member
    cases holds

theorem commandsSafe_of_unregistersAlone (publisher : Bool) (calls : List CommandCall)
    (first rest : List (Nat × Unit))
    (along : Along (Pool.step commandAct) (Pool.Admits UnregistersAlone)
      (commandPool publisher calls) (first ++ rest)) :
    CommandsSafe (run (Pool.step commandAct) (commandPool publisher calls)
      first).shared.pending := by
  have sound := Pool.invariant CommandsSound (along_append.mp along).1
    (fun _ _ _ _ _ alone holds => commandsSound_act alone holds)
    (commandsSound_commandPool publisher calls)
  exact sound.table.safe

def timedOut : List CommandCall :=
  [.register "c", .handleResult ⟨"c", 0, "done", ""⟩, .unregister "c"]

theorem commandsSafe_of_unregistersAlone_inTurn : CommandsSafe
    (run (Pool.step commandAct) (commandPool true timedOut)
      [(0, ()), (1, ()), (1, ()), (2, ())]).shared.pending :=
  commandsSafe_of_unregistersAlone true timedOut [(0, ()), (1, ()), (1, ()), (2, ())] [] (by decide)

theorem unregisters_before_send_not_safe : ¬CommandsSafe
    (run (Pool.step commandAct) (commandPool true timedOut)
      [(0, ()), (1, ()), (2, ()), (1, ())]).shared.pending := by
  intro safe
  have last := rel_of_pairwise_cons safe.sentWhileOpen (mem_singleton_self _) 0 rfl
  cases last

end ShadowPanel.Grpc
