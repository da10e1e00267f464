namespace ShadowPanel.Data

universe u v w

/-! Runs in which some events are hidden from an observer.  The step of a machine also gives
an output, and the observer sees the outputs of the observed events. -/

variable {State : Type u} {Event : Type v} {Output : Type w}
  (step : Event → State → State × Output)

def observations (observed : Event → Bool) : List Event → State → List Output
  | [], _ => []
  | event :: rest, state =>
    let (next, output) := step event state
    if observed event then output :: observations observed rest next
    else observations observed rest next

/-- States that are alike stay alike when a hidden event happens in one of them or any other
event in both, and give the observer the same output. -/
structure Unwinding (admitted : Event → Prop) (hidden observed : Event → Bool)
    (alike : State → State → Prop) : Prop where
  hides : ∀ event one other, admitted event → hidden event = true → alike one other →
    alike (step event one).1 other
  follows : ∀ event one other, admitted event → hidden event = false → alike one other →
    alike (step event one).1 (step event other).1
  shows : ∀ event one other, admitted event → observed event = true → alike one other →
    (step event one).2 = (step event other).2

variable {step} {admitted : Event → Prop} {hidden observed : Event → Bool}
  {alike : State → State → Prop}

theorem Unwinding.observations_eq (unwinding : Unwinding step admitted hidden observed alike)
    (apart : ∀ event, observed event = true → hidden event = false) (events : List Event)
    (all : ∀ event ∈ events, admitted event) (start : alike one other) :
    observations step observed events one =
      observations step observed (events.filter fun event => !hidden event) other := by
  induction events generalizing one other with
  | nil => rfl
  | cons event rest ih =>
    obtain ⟨first, later⟩ := List.forall_mem_cons.mp all
    cases isHidden : hidden event with
    | true =>
      have unseen : observed event = false := by
        rw [← Bool.not_eq_true]
        intro seen
        rw [apart event seen] at isHidden
        contradiction
      rw [List.filter_cons_of_neg (by simp [isHidden])]
      simp only [observations, unseen]
      exact ih later (unwinding.hides event one other first isHidden start)
    | false =>
      have next := ih later (unwinding.follows event one other first isHidden start)
      rw [List.filter_cons_of_pos (by simp [isHidden])]
      simp only [observations, next]
      split
      next seen => rw [unwinding.shows event one other first seen start]
      next => rfl

end ShadowPanel.Data
