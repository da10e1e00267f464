import ShadowPanel.Data.Channels
import ShadowPanel.Data.Programs

namespace ShadowPanel.Grpc

open Data Data.Program List

/-! The requests of a session that wait for an answer of the daemon, as in
`internal/grpc/session/session.go`.  A part of the code under the lock is one call, and
so is each use of a channel. -/

inductive SessionOp (Message : Type) where
  | register (requestID : String)
  | take (requestID : String)
  | send (channel : Nat) (message : Message)
  | close (channel : Nat)

section

variable {Message : Type}

abbrev SessionOp.Answer : SessionOp Message → Type
  | .register _ => Nat
  | .take _ => Option Nat
  | .send _ _ | .close _ => Unit

abbrev SessionCall (Message : Type) := Program (SessionOp Message) SessionOp.Answer Empty

def onSession (op : SessionOp Message) : SessionCall Message op.Answer := perform op

def registerPendingRequest (requestID : String) : SessionCall Message Nat :=
  onSession (.register requestID)

def resolvePendingRequest (requestID : String) (message : Message) : SessionCall Message Bool := do
  match ← onSession (.take requestID) with
  | none => pure false
  | some channel =>
    onSession (.send channel message)
    onSession (.close channel)
    pure true

/-- The source closes the channel before it gives the lock back; here others may come in
between. -/
def cancelPendingRequest (requestID : String) : SessionCall Message Unit := do
  match ← onSession (.take requestID) with
  | none => pure ()
  | some channel => onSession (.close channel)

inductive PendingCall (Message : Type) where
  | register (requestID : String)
  | resolve (requestID : String) (message : Message)
  | cancel (requestID : String)

inductive PendingResult where
  | registered (channel : Nat)
  | resolved (found : Bool)
  | cancelled

def PendingCall.program : PendingCall Message → SessionCall Message PendingResult
  | .register requestID => do
      let channel ← registerPendingRequest requestID
      pure (.registered channel)
  | .resolve requestID message => do
      let found ← resolvePendingRequest requestID message
      pure (.resolved found)
  | .cancel requestID => do
      cancelPendingRequest requestID
      pure .cancelled

abbrev PendingRequests (Message : Type) := ChannelTable String Message

def pendingOp (_ : Unit) (pending : PendingRequests Message) :
    (op : SessionOp Message) → PendingRequests Message × op.Answer
  | .register requestID => (pending.register requestID, pending.made.length)
  | .take requestID =>
    match pending.lookup requestID with
    | none => (pending, none)
    | some channel => (pending.remove requestID, some channel)
  | .send channel message => (pending.send channel message, ())
  | .close channel => (pending.close channel, ())

theorem pendingOp_take_of_none {pending : PendingRequests Message}
    (missing : pending.lookup requestID = none) :
    pendingOp () pending (.take requestID) = (pending, none) := by
  simp only [pendingOp, missing]

theorem pendingOp_take_of_some {pending : PendingRequests Message}
    (found : pending.lookup requestID = some channel) :
    pendingOp () pending (.take requestID) = (pending.remove requestID, some channel) := by
  simp only [pendingOp, found]

inductive Hold where
  | idle
  | taken (channel : Nat)
  | sent (channel : Nat)
  | closed (channel : Nat)
  deriving DecidableEq

def pendingRules (Message : Type) : Discipline Hold (SessionOp Message) SessionOp.Answer where
  allowed hold
    | .register _ | .take _ => hold = .idle
    | .send channel _ => hold = .taken channel
    | .close channel => hold = .taken channel ∨ hold = .sent channel
  possible _ _ := True
  learn hold
    | .take _, some channel => .taken channel
    | .send channel _, _ => .sent channel
    | .close channel, _ => .closed channel
    | _, _ => hold

abbrev PendingThread (Message : Type) :=
  Thread Hold (SessionOp Message) SessionOp.Answer Empty PendingResult

def ClosedIfResolved : Except Empty PendingResult → Hold → Prop
  | .ok (.resolved true), hold => ∃ channel, hold = .closed channel
  | _, _ => True

theorem obeys_program (call : PendingCall Message) :
    call.program.Obeys (pendingRules Message) ClosedIfResolved .idle := by
  cases call with
  | register requestID => exact ⟨rfl, fun _ _ => trivial⟩
  | resolve requestID message =>
    refine ⟨rfl, ?_⟩
    intro answer _
    cases answer with
    | none => trivial
    | some channel => exact ⟨rfl, fun _ _ => ⟨.inr rfl, fun _ _ => ⟨channel, rfl⟩⟩⟩
  | cancel requestID =>
    refine ⟨rfl, ?_⟩
    intro answer _
    cases answer with
    | none => trivial
    | some channel => exact ⟨.inl rfl, fun _ _ => trivial⟩

def pendingAct : Unit → PendingRequests Message → PendingThread Message →
    PendingRequests Message × PendingThread Message :=
  Thread.act (pendingRules Message) pendingOp

structure Account (Message : Type) where
  part : Nat → Hold → Bool
  spent : Nat → ChannelEvent Message → Bool
  idle : ∀ channel, part channel .idle = false
  taken : ∀ channel other, part channel (.taken other) = true → other = channel
  send : ∀ channel other message,
    (part channel (.sent other)).toNat + (spent channel (.sent other message)).toNat ≤
      (part channel (.taken other)).toNat
  close : ∀ channel other hold, hold = .taken other ∨ hold = .sent other →
    (part channel (.closed other)).toNat + (spent channel (.closed other)).toNat ≤
      (part channel hold).toNat

def Account.Balanced (account : Account Message)
    (pool : Pool (PendingRequests Message) (PendingThread Message)) : Prop :=
  ∀ channel,
    pool.shared.held channel + pool.calls.countP (fun call => account.part channel call.known) +
        pool.shared.log.countP (account.spent channel) ≤
      (pool.shared.isMade channel).toNat

namespace Hold

def owes (channel : Nat) : Hold → Bool
  | .taken other | .sent other => other == channel
  | .idle | .closed _ => false

def maySend (channel : Nat) : Hold → Bool
  | .taken other => other == channel
  | .idle | .sent _ | .closed _ => false

def took (channel : Nat) : Hold → Bool
  | .taken other | .sent other | .closed other => other == channel
  | .idle => false

end Hold

def closing : Account Message where
  part := Hold.owes
  spent := ChannelEvent.isClosed
  idle _ := rfl
  taken _ _ := eq_of_beq
  send _ _ _ := Nat.le_refl _
  close _ _ _ holds := by obtain rfl | rfl := holds <;> simp [Hold.owes, ChannelEvent.isClosed]

private theorem maySend_sent (channel other : Nat) (message : Message) :
    (Hold.maySend channel (.sent other)).toNat +
        (ChannelEvent.isSent channel (.sent other message)).toNat ≤
      (Hold.maySend channel (.taken other)).toNat := by
  simp [Hold.maySend, ChannelEvent.isSent]

def sending : Account Message where
  part := Hold.maySend
  spent := ChannelEvent.isSent
  idle _ := rfl
  taken _ _ := eq_of_beq
  send := maySend_sent
  close _ _ _ _ := Nat.zero_le _

def taking : Account Message where
  part := Hold.took
  spent _ _ := false
  idle _ := rfl
  taken _ _ := eq_of_beq
  send _ _ _ := Nat.le_refl _
  close _ _ _ holds := by obtain rfl | rfl := holds <;> exact Nat.le_refl _

namespace Account

variable {account : Account Message}

private theorem balanced_iff : account.Balanced ⟨pending, before ++ thread :: rest⟩ ↔
    ∀ channel, pending.held channel + (before ++ rest).countP
          (fun call => account.part channel call.known) +
        (account.part channel thread.known).toNat + pending.log.countP (account.spent channel) ≤
      (pending.isMade channel).toNat := by
  simp only [Balanced, Pool.countP_calls]
  refine forall_congr' fun channel => ?_
  rw [← Nat.add_assoc]

private theorem part_taken_le (account : Account Message) (channel other : Nat) :
    (account.part channel (.taken other)).toNat ≤ (other == channel).toNat := by
  cases mine : account.part channel (.taken other) with
  | false => exact Nat.zero_le _
  | true => simp [account.taken channel other mine]

private theorem balanced_act (input : Unit)
    (obeys : thread.rest.Obeys (pendingRules Message) ClosedIfResolved thread.known)
    (balanced : account.Balanced ⟨pending, before ++ thread :: rest⟩) :
    account.Balanced
      ⟨(pendingAct input pending thread).1,
        before ++ (pendingAct input pending thread).2 :: rest⟩ := by
  rw [balanced_iff] at balanced ⊢
  intro channel
  obtain ⟨known, program⟩ := thread
  have bound : pending.held channel + (before ++ rest).countP
        (fun call => account.part channel call.known) +
      (account.part channel known).toNat + pending.log.countP (account.spent channel) ≤
        (pending.isMade channel).toNat := balanced channel
  cases program with
  | done result => exact bound
  | call op next =>
    have allowed := obeys.1
    cases op with
    | register requestID =>
      have made := ChannelTable.held_register pending requestID channel
      change (pending.register requestID).held channel + _ + (account.part channel known).toNat +
        pending.log.countP _ ≤ ((pending.register requestID).isMade channel).toNat
      omega
    | take requestID =>
      have removed := ChannelTable.held_remove pending requestID channel
      cases found : pending.lookup requestID with
      | none =>
        simp only [pendingAct, Thread.act, pendingOp_take_of_none found]
        exact bound
      | some other =>
        simp only [pendingAct, Thread.act, pendingOp_take_of_some found]
        rw [found, Option.some_beq_some] at removed
        have part := account.part_taken_le channel other
        change (pending.remove requestID).held channel + _ +
          (account.part channel (.taken other)).toNat + pending.log.countP _ ≤
            (pending.isMade channel).toNat
        omega
    | send other message =>
      have taken : known = .taken other := allowed
      have moved := account.send channel other message
      rw [← taken] at moved
      change pending.held channel + _ + (account.part channel (.sent other)).toNat +
        (pending.log ++ [ChannelEvent.sent other message]).countP _ ≤ _
      rw [countP_log_append]
      exact Nat.le_trans (by omega) bound
    | close other =>
      have moved := account.close channel other known allowed
      change pending.held channel + _ + (account.part channel (.closed other)).toNat +
        (pending.log ++ [ChannelEvent.closed other]).countP _ ≤ _
      rw [countP_log_append]
      exact Nat.le_trans (by omega) bound

end Account

abbrev PendingPool (Message : Type) := Pool (PendingRequests Message) (PendingThread Message)

section

variable (calls : List (PendingCall Message))

def pendingPool : PendingPool Message where
  shared := .empty
  calls := calls.map fun call => ⟨.idle, call.program⟩

structure PendingSound (pool : PendingPool Message) : Prop where
  obeys : ∀ call ∈ pool.calls, call.rest.Obeys (pendingRules Message) ClosedIfResolved call.known
  balanced : ∀ account : Account Message, account.Balanced pool
  sentWhileOpen : SentWhileOpen pool.shared.log

private theorem pendingSound_pendingPool :
    PendingSound (pendingPool calls) := by
  refine ⟨?_, ?_, List.Pairwise.nil⟩
  · intro thread member
    obtain ⟨call, _, rfl⟩ := mem_map.mp member
    exact obeys_program call
  · intro account channel
    have idle : (pendingPool calls).calls.countP
        (fun call => account.part channel call.known) = 0 := by
      rw [countP_eq_zero]
      intro thread member
      obtain ⟨call, _, rfl⟩ := mem_map.mp member
      exact Bool.eq_false_iff.mp (account.idle channel)
    rw [idle]
    exact Nat.zero_le _

private theorem unclosed_of_owes {pool : PendingPool Message} (sound : PendingSound pool)
    {thread : PendingThread Message} (member : thread ∈ pool.calls) (channel : Nat)
    (owes : thread.known.owes channel = true) :
    pool.shared.log.countP (ChannelEvent.isClosed channel) = 0 := by
  have bound : pool.shared.held channel + pool.calls.countP (fun call => call.known.owes channel) +
      pool.shared.log.countP (ChannelEvent.isClosed channel) ≤
        (pool.shared.isMade channel).toNat := sound.balanced closing channel
  have counted : 0 < pool.calls.countP (fun call => call.known.owes channel) :=
    countP_pos_iff.mpr ⟨thread, member, owes⟩
  have made : (pool.shared.isMade channel).toNat ≤ 1 := Bool.toNat_le _
  omega

private theorem pendingSound_act {pending : PendingRequests Message}
    {before rest : List (PendingThread Message)} {thread : PendingThread Message} (input : Unit)
    (sound : PendingSound ⟨pending, before ++ thread :: rest⟩) :
    PendingSound
      ⟨(pendingAct input pending thread).1,
        before ++ (pendingAct input pending thread).2 :: rest⟩ := by
  have obeys := Pool.forall_calls.mp sound.obeys
  refine ⟨Pool.forall_calls.mpr ⟨obeys.1, ?_⟩, ?_, ?_⟩
  · exact Thread.obeys_act (fun _ _ _ => trivial) obeys.2
  · intro account
    exact account.balanced_act input obeys.2 (sound.balanced account)
  · have member : thread ∈ before ++ thread :: rest := by simp
    have unclosed := unclosed_of_owes sound member
    obtain ⟨known, program⟩ := thread
    cases program with
    | done result => exact sound.sentWhileOpen
    | call op next =>
      cases op with
      | register requestID => exact sound.sentWhileOpen
      | take requestID =>
        cases found : pending.lookup requestID with
        | none =>
          simp only [pendingAct, Thread.act, pendingOp_take_of_none found]
          exact sound.sentWhileOpen
        | some channel =>
          simp only [pendingAct, Thread.act, pendingOp_take_of_some found]
          exact sound.sentWhileOpen
      | send channel message =>
        have taken : known = .taken channel := obeys.2.1
        refine sentWhileOpen_sent sound.sentWhileOpen (unclosed channel ?_)
        rw [taken]
        exact BEq.rfl
      | close channel => exact sentWhileOpen_closed sound.sentWhileOpen

def returnedTrue (call : PendingThread Message) : Bool :=
  match call.rest with
  | .done (.ok (.resolved true)) => true
  | _ => false

structure PendingSafe (pool : PendingPool Message) : Prop where
  closedOnce : ∀ channel, pool.shared.log.countP (ChannelEvent.isClosed channel) ≤ 1
  sentWhileOpen : SentWhileOpen pool.shared.log
  sentOnce : ∀ channel, pool.shared.log.countP (ChannelEvent.isSent channel) ≤ 1
  resolvedOnce : ∀ channel, pool.calls.countP
    (fun call => returnedTrue call && call.known == .closed channel) ≤ 1
  resolved : ∀ call ∈ pool.calls, returnedTrue call = true →
    ∃ channel, call.known = .closed channel ∧ channel < pool.shared.made.length

private theorem closed_of_returnedTrue {call : PendingThread Message}
    (obeys : call.rest.Obeys (pendingRules Message) ClosedIfResolved call.known)
    (returned : returnedTrue call = true) : ∃ channel, call.known = .closed channel := by
  obtain ⟨known, program⟩ := call
  match program with
  | .done (.ok (.resolved true)) => exact obeys
  | .done (.ok (.resolved false)) | .done (.ok (.registered _)) | .done (.ok .cancelled) =>
    cases returned
  | .call op next => cases returned

theorem pendingRequests_safe (events : List (Nat × Unit)) :
    PendingSafe (run (Pool.step pendingAct) (pendingPool calls) events) := by
  have sound := Pool.always PendingSound
    (fun input _ _ _ _ holds => pendingSound_act input holds) (pendingSound_pendingPool calls)
    events
  have spentOnce (account : Account Message) (channel : Nat) :=
    Nat.le_trans (Nat.le_add_left _ _) (Nat.le_trans (sound.balanced account channel)
      (Bool.toNat_le _))
  have takers (channel : Nat) :
      (run (Pool.step pendingAct) (pendingPool calls) events).calls.countP
          (fun call => call.known.took channel) ≤
        ((run (Pool.step pendingAct) (pendingPool calls) events).shared.isMade channel).toNat :=
    Nat.le_trans (Nat.le_trans (Nat.le_add_left _ _) (Nat.le_add_right _ _))
      (sound.balanced taking channel)
  refine ⟨spentOnce closing, sound.sentWhileOpen, spentOnce sending, ?_, ?_⟩
  · intro channel
    refine Nat.le_trans (countP_mono_left ?_)
      (Nat.le_trans (takers channel) (Bool.toNat_le _))
    intro call _ resolved
    rw [Bool.and_eq_true, beq_iff_eq] at resolved
    rw [resolved.2]
    exact BEq.rfl
  · intro call member returned
    obtain ⟨channel, closed⟩ := closed_of_returnedTrue (sound.obeys call member) returned
    refine ⟨channel, closed, ?_⟩
    have took : call.known.took channel = true := by
      rw [closed]
      exact BEq.rfl
    have counted : 0 < countP (fun call : PendingThread Message => call.known.took channel) _ :=
      countP_pos_iff.mpr ⟨call, member, took⟩
    exact ChannelTable.lt_of_isMade_pos (Nat.lt_of_lt_of_le counted (takers channel))

end

end

end ShadowPanel.Grpc
