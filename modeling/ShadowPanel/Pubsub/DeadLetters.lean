import Mathlib.Data.List.Basic

namespace ShadowPanel.Pubsub

open List

/-! The queue of failed messages of `internal/pubsub/dlq`. -/

structure FailedMessage (Message : Type) where
  id : String
  originalMsg : Message
  channel : String
  processed : Bool

structure MemoryStore (Message : Type) where
  messages : List (FailedMessage Message)
  maxSize : Nat

variable {Message : Type}

def MemoryStore.push (store : MemoryStore Message) (msg : FailedMessage Message) :
    MemoryStore Message :=
  let messages :=
    if store.maxSize ≤ store.messages.length then store.messages.tail else store.messages
  { store with messages := messages ++ [msg] }

def MemoryStore.pop (store : MemoryStore Message) :
    Option (FailedMessage Message × MemoryStore Message) :=
  (store.messages.find? (!·.processed)).map fun msg =>
    (msg, { store with messages := store.messages.eraseP (!·.processed) })

/-- The state of the loop of `ReprocessAll`, with the messages it has called `Publish` for. -/
structure Reprocessing (Message : Type) where
  store : MemoryStore Message
  attempted : List String := []
  published : List (FailedMessage Message) := []
  processed : Nat := 0
  failed : Nat := 0

variable (publish : FailedMessage Message → Bool)

def reprocessAll : Nat → Reprocessing Message → Option (Reprocessing Message)
  | 0, _ => none
  | rounds + 1, state =>
    match state.store.pop with
    | none => some state
    | some (msg, store) =>
      if msg.processed then reprocessAll rounds { state with store }
      else if msg.id ∈ state.attempted then some { state with store := store.push msg }
      else
        let attempted := state.attempted ++ [msg.id]
        let published := state.published ++ [msg]
        if publish msg then
          let processed := state.processed + 1
          reprocessAll rounds { state with store, attempted, published, processed }
        else
          let failed := state.failed + 1
          let store := store.push msg
          reprocessAll rounds { state with store, attempted, published, failed }

def reached (maxSize : Nat) (published messages : List (FailedMessage Message)) :
    Reprocessing Message where
  store := ⟨messages, maxSize⟩
  attempted := published.map FailedMessage.id
  published
  processed := published.countP publish
  failed := published.countP (!publish ·)

variable {publish} {rest published queue : List (FailedMessage Message)}
  {msg : FailedMessage Message}

theorem pop_append (skipped : ∀ other ∈ front, other.processed = true)
    (waiting : msg.processed = false) :
    MemoryStore.pop ⟨front ++ msg :: behind, maxSize⟩ = some (msg, ⟨front ++ behind, maxSize⟩) := by
  have none : front.find? (!·.processed) = none := by simpa using skipped
  have erased : (front ++ msg :: behind).eraseP (!·.processed) = front ++ behind := by
    rw [eraseP_append_right _ (by simpa using skipped), eraseP_cons_of_pos (by simp [waiting])]
  simp [MemoryStore.pop, find?_append, none, waiting, erased]

theorem push_of_room (room : rest.length < maxSize) :
    MemoryStore.push ⟨rest, maxSize⟩ msg = ⟨rest ++ [msg], maxSize⟩ := by
  rw [MemoryStore.push, if_neg (by simpa using room)]

theorem reprocessAll_reached (skipped : ∀ other ∈ front, other.processed = true)
    (waiting : msg.processed = false) (fresh : msg.id ∉ published.map FailedMessage.id)
    (room : (front ++ behind ++ rest).length < maxSize) (rounds : Nat) :
    reprocessAll publish (rounds + 1)
        (reached publish maxSize published (front ++ msg :: behind ++ rest)) =
      reprocessAll publish rounds (reached publish maxSize (published ++ [msg])
        (front ++ behind ++ (rest ++ [msg].filter (!publish ·)))) := by
  simp only [reprocessAll, reached, append_assoc, cons_append, pop_append skipped waiting, waiting,
    fresh] at room ⊢
  cases sent : publish msg with
  | true => simp [sent]
  | false => simp [push_of_room room, sent]

theorem reprocessAll_ends (skipped : ∀ other ∈ rest, other.processed = true)
    (unprocessed : ∀ msg ∈ published, msg.processed = false) (again : behind ⊆ published)
    (room : (rest ++ behind).length ≤ maxSize) :
    ∃ left, left ~ rest ++ behind ∧ ∀ rounds,
      reprocessAll publish (rounds + 1) (reached publish maxSize published (rest ++ behind)) =
        some (reached publish maxSize published left) := by
  cases behind with
  | nil =>
    have empty : MemoryStore.pop ⟨rest ++ [], maxSize⟩ = none := by
      simpa [MemoryStore.pop] using skipped
    exact ⟨_, .refl _, fun rounds => by simp only [reprocessAll, reached, empty]⟩
  | cons msg behind =>
    have attempted := again mem_cons_self
    rw [length_append, length_cons, ← Nat.add_assoc, ← length_append] at room
    refine ⟨rest ++ behind ++ [msg], ?_, fun rounds => ?_⟩
    · rw [append_assoc]
      exact (perm_append_singleton msg behind).append_left rest
    · simp [reprocessAll, reached, pop_append skipped (unprocessed msg attempted),
        push_of_room room, unprocessed msg attempted, mem_map_of_mem attempted]

theorem reprocessAll_run (published : List (FailedMessage Message))
    (waiting : rest.filter (!·.processed) = queue)
    (unprocessed : ∀ msg ∈ published, msg.processed = false)
    (distinct : ((published ++ queue).map FailedMessage.id).Nodup)
    (room : (rest ++ published.filter (!publish ·)).length ≤ maxSize) :
    ∃ left, left ~ rest.filter (·.processed) ++ (published ++ queue).filter (!publish ·) ∧
      ∀ rounds, reprocessAll publish (rounds + queue.length + 1)
          (reached publish maxSize published (rest ++ published.filter (!publish ·))) =
        some (reached publish maxSize (published ++ queue) left) := by
  induction queue generalizing rest published with
  | nil =>
    have skipped : ∀ other ∈ rest, other.processed = true := by simpa using waiting
    simpa [filter_eq_self.mpr skipped] using
      reprocessAll_ends skipped unprocessed (filter_subset_self _) room
  | cons msg queue ih =>
    obtain ⟨front, behind, rfl, skipped, here, later⟩ := filter_eq_cons_iff.mp waiting
    simp only [Bool.not_eq_true', Bool.not_eq_false] at skipped here
    have fresh : msg.id ∉ published.map FailedMessage.id := by
      rw [map_append, map_cons] at distinct
      exact fun attempted => (nodup_append.mp distinct).2.2 _ attempted _ mem_cons_self rfl
    have unattempted : (front ++ behind).filter (!·.processed) = queue := by
      rw [filter_append, later, filter_eq_nil_iff.mpr (by simpa using skipped), nil_append]
    have length := length_filter_le (!publish ·) [msg]
    simp only [length_append, length_cons, length_nil] at room length
    rw [append_cons published] at distinct ⊢
    obtain ⟨left, all, ends⟩ := ih _ unattempted
      (by simpa [or_imp, forall_and, here] using unprocessed) distinct
      (by simp only [filter_append, length_append]; omega)
    refine ⟨left, by simpa [here] using all, fun rounds => ?_⟩
    rw [← ends rounds, filter_append]
    exact reprocessAll_reached skipped here fresh (by simpa using by omega) _

/-- The loop ends after one round more than there are messages to attempt. -/
theorem reprocessAll_exact (publish : FailedMessage Message → Bool) (store : MemoryStore Message)
    (distinct : (store.messages.map FailedMessage.id).Nodup)
    (room : store.messages.length ≤ store.maxSize) :
    let waiting := store.messages.filter (!·.processed)
    ∃ final, (∀ rounds, reprocessAll publish (rounds + waiting.length + 1) { store } = some final) ∧
      final.published = waiting ∧
      final.store.messages ~
        store.messages.filter (·.processed) ++ waiting.filter (!publish ·) ∧
      final.failed = waiting.countP (!publish ·) ∧
      final.processed + final.failed = waiting.length := by
  obtain ⟨left, all, ends⟩ := reprocessAll_run [] rfl nofun
    (distinct.sublist (filter_sublist.map _)) (by simpa using room)
  rw [filter_nil, append_nil] at ends
  refine ⟨_, ends, rfl, all, rfl, ?_⟩
  simpa [reached] using (length_eq_countP_add_countP publish).symm

theorem reprocessAll_exact_pair :
    let store := ⟨[⟨"a", 1, "c", false⟩, ⟨"b", 2, "c", true⟩], 2⟩
    ∃ final, reprocessAll (fun _ => false) 2 { store } = some final ∧
      final.store.messages ~ store.messages := by
  obtain ⟨final, ends, _, left, _⟩ := reprocessAll_exact (fun _ => false)
    (⟨[⟨"a", 1, "c", false⟩, ⟨"b", 2, "c", true⟩], 2⟩ : MemoryStore Nat) (by decide) (by decide)
  exact ⟨final, ends 0, left.trans (Perm.swap ..)⟩

end ShadowPanel.Pubsub
