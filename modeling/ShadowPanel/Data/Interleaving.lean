import ShadowPanel.Data.Runs

namespace ShadowPanel.Data

open List

universe u v w

/-! Calls that run side by side over one shared state.  A step of the whole is
one atomic step of one call, so that a list of positions is an interleaving. -/

structure Pool (Shared : Type u) (Call : Type v) where
  shared : Shared
  calls : List Call

namespace Pool

variable {Shared : Type u} {Call : Type v} {Input : Type w}
variable (act : Input → Shared → Call → Shared × Call)

def step (pool : Pool Shared Call) (event : Nat × Input) : Pool Shared Call :=
  match pool.calls[event.1]? with
  | none => pool
  | some call =>
    { shared := (act event.2 pool.shared call).1
      calls := pool.calls.set event.1 (act event.2 pool.shared call).2 }

def Admits (condition : Input → Shared → List Call → Call → Prop) (pool : Pool Shared Call)
    (event : Nat × Input) : Prop :=
  match pool.calls[event.1]? with
  | none => True
  | some call => condition event.2 pool.shared (pool.calls.eraseIdx event.1) call

instance (condition : Input → Shared → List Call → Call → Prop)
    [∀ input shared others call, Decidable (condition input shared others call)]
    (pool : Pool Shared Call) (event : Nat × Input) : Decidable (Admits condition pool event) := by
  unfold Admits
  split <;> infer_instance

variable {act} {condition : Input → Shared → List Call → Call → Prop}

theorem step_eq_self {pool : Pool Shared Call} (absent : pool.calls[event.1]? = none) :
    pool.step act event = pool := by
  simp only [step, absent]

variable {shared : Shared}

@[simp]
theorem step_append : Pool.step act ⟨shared, before ++ call :: behind⟩ (before.length, input) =
    ⟨(act input shared call).1, before ++ (act input shared call).2 :: behind⟩ := by
  simp [step]

@[simp]
theorem admits_append : Admits condition ⟨shared, before ++ call :: behind⟩ (before.length, input) ↔
    condition input shared (before ++ behind) call := by
  simp [Admits, eraseIdx_append_of_length_le]

theorem forall_calls {property : Call → Prop} : (∀ each ∈ before ++ call :: behind, property each) ↔
    (∀ each ∈ before ++ behind, property each) ∧ property call := by
  simp only [forall_mem_append, forall_mem_cons]
  constructor
  · intro all
    exact ⟨⟨all.1, all.2.2⟩, all.2.1⟩
  · intro all
    exact ⟨all.1.1, all.2, all.1.2⟩

theorem mem_calls : each ∈ before ++ call :: behind ↔ each ∈ before ++ behind ∨ each = call := by
  simp only [mem_append, mem_cons]
  rw [or_assoc, or_comm (a := each = call)]

theorem exists_calls {property : Call → Prop} : (∃ each ∈ before ++ call :: behind, property each) ↔
    (∃ each ∈ before ++ behind, property each) ∨ property call := by
  simp only [mem_append, mem_cons, or_and_right, exists_or, exists_eq_left]
  rw [or_assoc, or_comm (a := property call)]

theorem countP_calls {counted : Call → Bool} : (before ++ call :: behind).countP counted =
    (before ++ behind).countP counted + (counted call).toNat := by
  rw [countP_append, countP_append, countP_cons]
  cases counted call <;> rfl

theorem split_calls (calls : List Call) (index : Nat) : calls[index]? = none ∨
    ∃ before call behind, calls = before ++ call :: behind ∧ index = before.length := by
  induction calls generalizing index with
  | nil => exact .inl rfl
  | cons head tail ih =>
    cases index with
    | zero => exact .inr ⟨[], head, tail, rfl, rfl⟩
    | succ index =>
      cases ih index with
      | inl absent => exact .inl (by simpa using absent)
      | inr found =>
        obtain ⟨before, call, behind, rfl, rfl⟩ := found
        exact .inr ⟨head :: before, call, behind, rfl, rfl⟩

theorem step_rec {motive : Pool Shared Call → Nat × Input → Prop}
    (absent : ∀ pool event, pool.calls[event.1]? = none → motive pool event)
    (present : ∀ input shared before call behind,
      motive ⟨shared, before ++ call :: behind⟩ (before.length, input)) (pool : Pool Shared Call)
    (event : Nat × Input) : motive pool event := by
  obtain ⟨shared, calls⟩ := pool
  obtain ⟨index, input⟩ := event
  cases split_calls calls index with
  | inl none => exact absent _ _ none
  | inr found =>
    obtain ⟨before, call, behind, rfl, rfl⟩ := found
    exact present input shared before call behind

variable (property : Pool Shared Call → Prop)

theorem invariant {pool : Pool Shared Call} {events : List (Nat × Input)}
    (along : Along (step act) (Admits condition) pool events)
    (kept : ∀ input shared before call behind, condition input shared (before ++ behind) call →
      property ⟨shared, before ++ call :: behind⟩ →
      property ⟨(act input shared call).1, before ++ (act input shared call).2 :: behind⟩)
    (initially : property pool) : property (run (step act) pool events) := by
  refine along.invariant (step_rec ?_ ?_) initially
  · intro pool event absent _ holds
    rw [step_eq_self absent]
    exact holds
  · intro input shared before call behind admitted holds
    rw [step_append]
    exact kept input shared before call behind (admits_append.mp admitted) holds

theorem step_kept
    (kept : ∀ input shared before call behind, property ⟨shared, before ++ call :: behind⟩ →
      property ⟨(act input shared call).1, before ++ (act input shared call).2 :: behind⟩) :
    ∀ pool event, property pool → property (pool.step act event) := by
  refine step_rec ?_ ?_
  · intro pool event absent holds
    rw [step_eq_self absent]
    exact holds
  · intro input shared before call behind holds
    rw [step_append]
    exact kept input shared before call behind holds

theorem always
    (kept : ∀ input shared before call behind, property ⟨shared, before ++ call :: behind⟩ →
      property ⟨(act input shared call).1, before ++ (act input shared call).2 :: behind⟩)
    {pool : Pool Shared Call} (initially : property pool) (events : List (Nat × Input)) :
    property (run (step act) pool events) := by
  induction events generalizing pool with
  | nil => exact initially
  | cons event rest ih => exact ih (step_kept property kept pool event initially)

theorem along_iff_always_of_sound (sound property : Pool Shared Call → Prop)
    (soundKept : ∀ input shared before call behind, sound ⟨shared, before ++ call :: behind⟩ →
      sound ⟨(act input shared call).1, before ++ (act input shared call).2 :: behind⟩)
    (kept : ∀ input shared before call behind, sound ⟨shared, before ++ call :: behind⟩ →
      property ⟨shared, before ++ call :: behind⟩ →
      (condition input shared (before ++ behind) call ↔
      property ⟨(act input shared call).1, before ++ (act input shared call).2 :: behind⟩))
    {pool : Pool Shared Call} {events : List (Nat × Input)} (soundly : sound pool)
    (initially : property pool) :
    Along (step act) (Admits condition) pool events ↔
      ∀ first rest, events = first ++ rest → property (run (step act) pool first) := by
  refine Data.along_iff_always_of_sound sound property (step_kept sound soundKept)
    (step_rec ?_ ?_) soundly initially
  · intro pool event absent _ held
    rw [step_eq_self absent]
    exact iff_of_true (by simp only [Admits, absent]) held
  · intro input shared before call behind holds held
    rw [step_append, admits_append]
    exact kept input shared before call behind holds held

theorem call_invariant {own : Call → Prop}
    (kept : ∀ input shared before call behind, condition input shared (before ++ behind) call →
      property ⟨shared, before ++ call :: behind⟩ →
      property ⟨(act input shared call).1, before ++ (act input shared call).2 :: behind⟩)
    (keptOwn : ∀ input shared before call behind, property ⟨shared, before ++ call :: behind⟩ →
      own call → own (act input shared call).2)
    (along : Along (step act) (Admits condition) pool events) (initially : property pool)
    {index : Nat} (found : pool.calls[index]? = some call) (owns : own call) :
    ∃ last, (run (step act) pool events).calls[index]? = some last ∧ own last := by
  refine (invariant (fun pool => property pool ∧ ∃ last, pool.calls[index]? = some last ∧ own last)
    along ?_ ⟨initially, call, found, owns⟩).2
  intro input shared before call behind admitted holds
  obtain ⟨whole, last, found, owns⟩ := holds
  refine ⟨kept input shared before call behind admitted whole, ?_⟩
  have placed (next : Call) :
      before ++ next :: behind = (before ++ call :: behind).set before.length next := by simp
  by_cases turn : before.length = index
  · subst turn
    have same : call = last := by simpa using found
    subst same
    exact ⟨_, by simp, keptOwn input shared before call behind whole owns⟩
  · refine ⟨last, ?_, owns⟩
    rw [placed, getElem?_set_ne turn]
    exact found

theorem along_of_invariant {property : Input → Shared → List Call → Call → Prop}
    (sound : Pool Shared Call → Prop)
    (kept : ∀ input shared before call behind, condition input shared (before ++ behind) call →
      sound ⟨shared, before ++ call :: behind⟩ →
      sound ⟨(act input shared call).1, before ++ (act input shared call).2 :: behind⟩ ∧
      property input shared (before ++ behind) call) {pool : Pool Shared Call}
    (along : Along (step act) (Admits condition) pool events) (initially : sound pool) :
    Along (step act) (Admits property) pool events := by
  refine along.imp_of_invariant sound (step_rec ?_ ?_) initially
  · intro pool event absent _ holds
    rw [step_eq_self absent]
    exact ⟨holds, by simp only [Admits, absent]⟩
  · intro input shared before call behind admitted holds
    rw [step_append, admits_append]
    exact kept input shared before call behind (admits_append.mp admitted) holds

theorem along_and {first second : Input → Shared → List Call → Call → Prop}
    (alongFirst : Along (step act) (Admits first) pool events)
    (alongSecond : Along (step act) (Admits second) pool events) :
    Along (step act)
      (Admits fun input shared others call =>
        first input shared others call ∧ second input shared others call) pool events := by
  refine (alongFirst.and alongSecond).imp_of_invariant (fun _ => True) ?_ trivial
  intro pool event both _
  refine ⟨trivial, ?_⟩
  unfold Admits at both ⊢
  split
  · trivial
  next call found =>
    rw [found] at both
    exact both

def counts (counted : Input → Call → Bool) (pool : Pool Shared Call) (event : Nat × Input) : Bool :=
  match pool.calls[event.1]? with
  | none => false
  | some call => counted event.2 call

@[simp] theorem counts_append {counted : Input → Call → Bool} :
    counts counted ⟨shared, before ++ call :: behind⟩ (before.length, input) =
      counted input call := by
  simp [counts]

theorem occurrences_le_one {counted : Input → Call → Bool} (sound settled : Pool Shared Call → Prop)
    (reached : ∀ input shared before call behind, condition input shared (before ++ behind) call →
      sound ⟨shared, before ++ call :: behind⟩ → counted input call = false ∧
      sound ⟨(act input shared call).1, before ++ (act input shared call).2 :: behind⟩ ∨
      settled ⟨(act input shared call).1, before ++ (act input shared call).2 :: behind⟩)
    (kept : ∀ input shared before call behind, condition input shared (before ++ behind) call →
      settled ⟨shared, before ++ call :: behind⟩ → counted input call = false ∧
      settled ⟨(act input shared call).1, before ++ (act input shared call).2 :: behind⟩)
    {pool : Pool Shared Call} {events : List (Nat × Input)}
    (along : Along (step act) (Admits condition) pool events) (initially : sound pool) :
    occurrences (step act) (counts counted) pool events ≤ 1 := by
  refine along.occurrences_le_one sound settled (step_rec ?_ ?_) (step_rec ?_ ?_) initially
  · intro pool event absent _ holds
    rw [step_eq_self absent]
    exact .inl ⟨by simp only [counts, absent], holds⟩
  · intro input shared before call behind admitted holds
    rw [step_append, counts_append]
    exact reached input shared before call behind (admits_append.mp admitted) holds
  · intro pool event absent _ holds
    rw [step_eq_self absent]
    exact ⟨by simp only [counts, absent], holds⟩
  · intro input shared before call behind admitted holds
    rw [step_append, counts_append]
    exact kept input shared before call behind (admits_append.mp admitted) holds

@[simp] theorem length_calls_run (pool : Pool Shared Call) (events : List (Nat × Input)) :
    (run (step act) pool events).calls.length = pool.calls.length := by
  induction events generalizing pool with
  | nil => rfl
  | cons event rest ih =>
    refine (ih (pool.step act event)).trans ?_
    unfold step
    split
    · rfl
    · exact length_set

end Pool

end ShadowPanel.Data
