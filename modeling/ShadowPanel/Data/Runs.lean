namespace ShadowPanel.Data

open List

universe u v

variable {State : Type u} {Event : Type v}

/-! Runs of a machine whose step is a function. -/

def run (step : State → Event → State) (state : State) (events : List Event) : State :=
  events.foldl step state

def Along (step : State → Event → State) (condition : State → Event → Prop) (state : State) :
    List Event → Prop
  | [] => True
  | event :: rest => condition state event ∧ Along step condition (step state event) rest

instance Along.decidable (step : State → Event → State) (condition : State → Event → Prop)
    [∀ state event, Decidable (condition state event)] (state : State) :
    (events : List Event) → Decidable (Along step condition state events)
  | [] => .isTrue trivial
  | event :: rest =>
    have := Along.decidable step condition (step state event) rest
    instDecidableAnd

@[simp]
theorem run_append (step : State → Event → State) (state : State) (first rest : List Event) :
    run step state (first ++ rest) = run step (run step state first) rest :=
  foldl_append

variable {step : State → Event → State} {condition : State → Event → Prop}
  {property : State → Prop} {state : State}

theorem along_append : Along step condition state (first ++ rest) ↔
    Along step condition state first ∧ Along step condition (run step state first) rest := by
  induction first generalizing state with
  | nil => simp [Along, run]
  | cons event first ih =>
    rw [cons_append, Along, Along, ih, and_assoc]
    rfl

theorem Along.invariant
    (kept : ∀ state event, condition state event → property state → property (step state event))
    (along : Along step condition state events) (initially : property state) :
    property (run step state events) := by
  induction events generalizing state with
  | nil => exact initially
  | cons event rest ih =>
    obtain ⟨admitted, later⟩ := along
    exact ih later (kept state event admitted initially)

theorem Along.imp_of_invariant {property : State → Event → Prop} (sound : State → Prop)
    (kept : ∀ state event, condition state event → sound state → sound (step state event) ∧
      property state event) (along : Along step condition state events) (initially : sound state) :
    Along step property state events := by
  induction events generalizing state with
  | nil => trivial
  | cons event rest ih =>
    obtain ⟨admitted, later⟩ := along
    obtain ⟨next, holds⟩ := kept state event admitted initially
    exact ⟨holds, ih later next⟩

theorem Along.and (alongFirst : Along step first state events)
    (alongSecond : Along step second state events) :
    Along step (fun state event => first state event ∧ second state event) state events := by
  induction events generalizing state with
  | nil => trivial
  | cons event rest ih =>
    exact ⟨⟨alongFirst.1, alongSecond.1⟩, ih alongFirst.2 alongSecond.2⟩

theorem Along.between {keeps : State → State → Prop} (refl : ∀ state, keeps state state)
    (trans : ∀ {first second third}, keeps first second → keeps second third → keeps first third)
    (kept : ∀ state event, condition state event → keeps state (step state event))
    (along : Along step condition state (first ++ middle)) :
    keeps (run step state first) (run step state (first ++ middle)) := by
  rw [run_append]
  apply (along_append.mp along).2.invariant
  · intro later event admitted before
    exact trans before (kept later event admitted)
  · exact refl _

def occurrences (step : State → Event → State) (counted : State → Event → Bool) (state : State) :
    List Event → Nat
  | [] => 0
  | event :: rest =>
    (counted state event).toNat + occurrences step counted (step state event) rest

theorem Along.occurrences_eq_zero {settled : State → Prop}
    (kept : ∀ state event, condition state event → settled state → counted state event = false ∧
      settled (step state event)) (along : Along step condition state events)
    (initially : settled state) :
    occurrences step counted state events = 0 := by
  induction events generalizing state with
  | nil => rfl
  | cons event rest ih =>
    obtain ⟨admitted, later⟩ := along
    obtain ⟨other, next⟩ := kept state event admitted initially
    rw [occurrences, other, ih later next]
    rfl

theorem Along.occurrences_le_one (sound settled : State → Prop)
    (reached : ∀ state event, condition state event → sound state → counted state event = false ∧
      sound (step state event) ∨ settled (step state event))
    (kept : ∀ state event, condition state event → settled state → counted state event = false ∧
      settled (step state event)) (along : Along step condition state events)
    (initially : sound state) : occurrences step counted state events ≤ 1 := by
  induction events generalizing state with
  | nil => exact Nat.zero_le 1
  | cons event rest ih =>
    obtain ⟨admitted, later⟩ := along
    rw [occurrences]
    cases reached state event admitted initially with
    | inl other =>
      rw [other.1, Bool.toNat_false, Nat.zero_add]
      exact ih later other.2
    | inr next =>
      rw [Along.occurrences_eq_zero kept later next]
      exact Bool.toNat_le _

theorem along_of_each
    (each : ∀ first event rest, events = first ++ event :: rest →
      condition (run step state first) event) : Along step condition state events := by
  induction events generalizing state with
  | nil => trivial
  | cons event rest ih =>
    refine ⟨each [] event rest rfl, ?_⟩
    apply ih
    intro first later remaining split
    exact each (event :: first) later remaining (congrArg (cons event) split)

/-- In an admitted run, a property that a step keeps exactly when the condition holds of it,
as long as the state is sound, is there in every state exactly when every step meets the
condition. -/
theorem Along.iff_always (sound property : State → Prop)
    (soundKept : ∀ state event, admitted state event → sound state → sound (step state event))
    (kept : ∀ state event, admitted state event → sound state → property state →
      (condition state event ↔ property (step state event)))
    (along : Along step admitted state events) (soundly : sound state)
    (initially : property state) :
    Along step condition state events ↔
      ∀ first rest, events = first ++ rest → property (run step state first) := by
  induction events generalizing state with
  | nil =>
    refine iff_of_true trivial ?_
    intro first rest split
    rw [(append_eq_nil_iff.mp split.symm).1]
    exact initially
  | cons event rest ih =>
    obtain ⟨admits, later⟩ := along
    have keeps := kept state event admits soundly initially
    have next := soundKept state event admits soundly
    constructor
    · intro ⟨meets, meetLater⟩ first remaining split
      cases first with
      | nil => exact initially
      | cons head first =>
        obtain ⟨rfl, tails⟩ := cons.inj split
        exact (ih later next (keeps.mp meets)).mp meetLater first remaining tails
    · intro always
      have holds : property (step state event) := always [event] rest rfl
      refine ⟨keeps.mpr holds, (ih later next holds).mpr ?_⟩
      intro first remaining split
      exact always (event :: first) remaining (congrArg (cons event) split)

theorem along_iff_always_of_sound (sound property : State → Prop)
    (soundKept : ∀ state event, sound state → sound (step state event))
    (kept : ∀ state event, sound state → property state →
      (condition state event ↔ property (step state event))) (soundly : sound state)
    (initially : property state) :
    Along step condition state events ↔
      ∀ first rest, events = first ++ rest → property (run step state first) := by
  have free : Along step (fun _ _ => True) state events :=
    along_of_each fun _ _ _ _ => trivial
  exact free.iff_always sound property (fun state event _ => soundKept state event)
    (fun state event _ => kept state event) soundly initially

theorem along_iff_always
    (kept : ∀ state event, property state → (condition state event ↔ property (step state event)))
    (initially : property state) :
    Along step condition state events ↔
      ∀ first rest, events = first ++ rest → property (run step state first) :=
  along_iff_always_of_sound (fun _ => True) property
    (fun _ _ _ => trivial) (fun state event _ => kept state event) trivial initially

end ShadowPanel.Data
