import ShadowPanel.Data.CacheAsideCoherence

namespace ShadowPanel.Data.Backend

open CacheAside

variable {Tables Key Rows Call : Type} {backend : Backend Tables Key Rows Call}
variable {state : State Tables Key Rows}

/-! After the last write of a clean run every reading returns committed rows. -/

def Quiet (state : State Tables Key Rows) : Prop :=
  ∀ id session, state.sessions id = some session →
    session.wrote = [] ∧ session.outdated = [] ∧ session.outstanding = []

theorem Coherent.reads_of_quiet (coherent : backend.Coherent state) (quiet : Quiet state)
    (copies : state.Copies key copy) : backend.Reads state.committed key copy.rows := by
  have current := coherent.current key copy copies
  refine (current_of_closed ?_).mp current
  intro id through
  cases opened : state.sessions id with
  | none => rfl
  | some session =>
    have wrote := ((current_of_open through opened).mp current).wrote
    rw [(quiet id session opened).1] at wrote
    exact nomatch wrote

theorem loadPhase_ne_returned [DecidableEq Key] :
    state.loadPhase key context rows ≠ .returned returned := by
  unfold State.loadPhase
  split
  · nofun
  · split <;> nofun

namespace Quiet

theorem setSession (quiet : Quiet state) {id : Nat}
    (silent : ∀ opened, session = some opened → opened.wrote = [] ∧ opened.outdated = [] ∧
      opened.outstanding = []) :
    Quiet (state.setSession id session) := by
  intro other found present
  simp only [State.setSession, Function.update_apply] at present
  split at present
  · exact silent found present
  · exact quiet other found present

theorem clean (quiet : Quiet state) (coherent : backend.Coherent state)
    (step : Step Tables Key Rows Call) : state.Clean step := by
  cases step with
  | invalidate id =>
    intro session opened key first
    rw [(quiet id session opened).2.2] at first
    cases first
  | rollback id =>
    intro opened key copy copies through
    obtain ⟨session, opened⟩ := Option.isSome_iff_exists.mp opened
    have pending := (current_of_open through opened).mp (coherent.current key copy copies)
    have wrote := pending.wrote
    rw [(quiet id session opened).1] at wrote
    exact nomatch wrote
  | load reader rows =>
    intro reading present id session opened
    rw [(quiet id session opened).1, (quiet id session opened).2.1]
    exact ⟨fun _ => List.not_mem_nil, fun _ wrote => nomatch wrote⟩
  | _ => trivial

end Quiet

theorem returned_setReading
    (present : (state.setReading reader reading).readings other = some found)
    (returned : found.phase = .returned rows) (silent : ∀ rows, reading.phase ≠ .returned rows) :
    state.readings other = some found := by
  simp only [State.setReading, Function.update_apply] at present
  split at present
  · cases present
    exact absurd returned (silent rows)
  · exact present

structure Settled (backend : Backend Tables Key Rows Call) (tables : Tables) (later : Nat → Prop)
    (state : State Tables Key Rows) : Prop where
  coherent : backend.Coherent state
  quiet : Quiet state
  committed : ∀ key, backend.Same state.committed tables key
  returned : ∀ reader reading rows, later reader →
    state.readings reader = some reading → reading.phase = .returned rows →
      backend.Reads tables reading.key rows

namespace Settled

variable {later : Nat → Prop}

theorem of_finished (coherent : backend.Coherent state)
    (finished : ∀ id, state.sessions id = none) :
    backend.Settled state.committed (fun reader => state.readings reader = none) state where
  coherent := coherent
  quiet := by
    intro id session opened
    rw [finished id] at opened
    cases opened
  committed := fun _ _ => Iff.rfl
  returned := by
    intro reader reading rows idle present
    rw [idle] at present
    cases present

theorem reads (settled : backend.Settled tables later state) (copies : state.Copies key copy) :
    backend.Reads tables key copy.rows :=
  (settled.committed key _).mp (settled.coherent.reads_of_quiet settled.quiet copies)

end Settled

section

variable [DecidableEq Key]

theorem step_of_reading {step : Step Tables Key Rows Call} (reading : step.isReading = true) :
    (backend.step state step).sessions = state.sessions ∧
      (backend.step state step).committed = state.committed := by
  cases step with
  | read reader key context =>
    simp only [step]
    split <;> exact ⟨rfl, rfl⟩
  | load reader rows =>
    simp only [step]
    split <;> exact ⟨rfl, rfl⟩
  | expire key => exact ⟨rfl, rfl⟩
  | start | refresh id keys view | write id call | invalidate id | commit id merged | rollback id =>
    cases reading
  | _ =>
    simp only [step]
    split
    · split <;> exact ⟨rfl, rfl⟩
    · exact ⟨rfl, rfl⟩

theorem readings_of_session {step : Step Tables Key Rows Call} (session : step.isReading = false) :
    (backend.step state step).readings = state.readings := by
  cases step with
  | start => rfl
  | refresh id keys view | write id call | invalidate id | commit id merged =>
    simp only [step]
    split <;> rfl
  | rollback id => rfl
  | _ => cases session

theorem returned_step {step : Step Tables Key Rows Call}
    (present : (backend.step state step).readings reader = some reading)
    (returned : reading.phase = .returned rows) :
    state.readings reader = some reading ∨
      ∃ copy, state.cache reading.key = some copy ∧ rows = copy.rows := by
  cases kind : step.isReading with
  | false =>
    rw [readings_of_session kind] at present
    exact .inl present
  | true =>
    cases step with
    | read other key context =>
      simp only [step] at present
      split at present
      · exact .inl (returned_setReading present returned (by simp))
      · exact .inl present
    | lookup other refused | store other failed =>
      simp only [step] at present
      split at present
      · split at present
        · exact .inl (returned_setReading present returned (by simp))
        · exact .inl (returned_setReading present returned (by simp))
      · exact .inl present
    | load other loaded =>
      simp only [step] at present
      split at present
      · refine .inl (returned_setReading present returned ?_)
        intro rows
        exact loadPhase_ne_returned
      · exact .inl present
    | reread other refused =>
      simp only [step] at present
      split at present
      · split at present
        · simp only [State.setReading, Function.update_apply] at present
          split at present
          · cases present
            cases returned
            exact .inr ⟨_, ‹_›, rfl⟩
          · exact .inl present
        · exact .inl (returned_setReading present returned (by simp))
      · exact .inl present
    | expire key => exact .inl present
    | _ => cases kind

theorem Quiet.step (quiet : Quiet state) {step : Step Tables Key Rows Call}
    (reads : step.isWrite = false) : Quiet (backend.step state step) := by
  cases kind : step.isReading with
  | true =>
    intro id session opened
    rw [(step_of_reading kind).1] at opened
    exact quiet id session opened
  | false =>
    cases step with
    | start =>
      refine quiet.setSession ?_
      intro session opened
      cases opened
      exact ⟨rfl, rfl, rfl⟩
    | refresh id keys view =>
      cases opened : state.sessions id with
      | none =>
        simp only [Backend.step, opened]
        exact quiet
      | some session =>
        simp only [Backend.step, opened]
        obtain ⟨wrote, outdated, outstanding⟩ := quiet id session opened
        refine quiet.setSession ?_
        intro next same
        cases same
        exact ⟨wrote, by simp [outdated], outstanding⟩
    | invalidate id =>
      simp only [Backend.step]
      split
      case h_2 => exact quiet
      case h_1 opened => cases (quiet id _ opened).2.2
    | commit id merged =>
      simp only [Backend.step]
      split
      case h_2 => exact quiet
      case h_1 wrote _ opened =>
        intro other session present
        obtain ⟨_, before, found, rfl⟩ := overtaken_eq_some.mp present
        obtain ⟨beforeWrote, outdated, outstanding⟩ := quiet other before found
        have nothing : wrote = [] := (quiet id _ opened).1
        exact ⟨beforeWrote, by simp [nothing, outdated], outstanding⟩
    | rollback id => exact quiet.setSession (by simp)
    | write id call => cases reads
    | _ => cases kind

theorem Quiet.committed (quiet : Quiet state) {step : Step Tables Key Rows Call}
    (admitted : backend.Admitted state step) (key : Key) :
    backend.Same (backend.step state step).committed state.committed key := by
  cases kind : step.isReading with
  | true =>
    rw [(step_of_reading kind).2]
    exact fun _ => Iff.rfl
  | false =>
    cases step with
    | commit id merged =>
      simp only [Backend.step]
      split
      case h_2 => exact fun _ => Iff.rfl
      case h_1 wrote _ opened =>
        have nothing : wrote = [] := (quiet id _ opened).1
        exact (admitted _ opened key).1 (by simp [nothing])
    | start => exact fun _ => Iff.rfl
    | rollback id => exact fun _ => Iff.rfl
    | read reader key context | lookup reader refused | load reader rows | store reader failed
    | reread reader refused | expire key =>
      cases kind
    | _ =>
      simp only [Backend.step]
      split <;> exact fun _ => Iff.rfl

namespace Settled

variable {tables : Tables} {later : Nat → Prop}

variable (settled : backend.Settled tables later state)

include settled

theorem step {step : Step Tables Key Rows Call} (reads : step.isWrite = false)
    (admitted : backend.Admitted state step) :
    backend.Settled tables later (backend.step state step) where
  coherent := settled.coherent.step admitted (settled.quiet.clean settled.coherent step)
  quiet := settled.quiet.step reads
  committed := fun key =>
    Same.trans (settled.quiet.committed admitted key) (settled.committed key)
  returned := by
    intro reader reading rows isLater present returned
    cases returned_step present returned with
    | inl old => exact settled.returned reader reading rows isLater old returned
    | inr cached =>
      obtain ⟨copy, found, rfl⟩ := cached
      exact settled.reads (.inl found)

theorem run (reads : ∀ step ∈ steps, step.isWrite = false)
    (admitted : backend.Along backend.Admitted state steps) :
    backend.Settled tables later (backend.run state steps) := by
  induction steps generalizing state with
  | nil => exact settled
  | cons step rest ih =>
    exact ih (settled.step (reads step (by simp)) admitted.1)
      (fun other member => reads other (by simp [member])) admitted.2

theorem alone (idle : state.readings reader = none) (loaded : backend.Reads tables key rows)
    (refused : Bool) :
    ∃ result, (backend.run state
        [.read reader key none, .lookup reader refused, .load reader rows,
          .store reader false, .reread reader false]).readings reader =
        some ⟨key, none, .returned result⟩ ∧
      backend.Reads tables key result := by
  cases cached : state.cache key with
  | none =>
    refine ⟨rows, ?_, loaded⟩
    simp [Backend.run, Backend.step, State.setReading, State.setCache, State.loadPhase,
      idle, cached]
  | some copy =>
    cases refused with
    | true =>
      refine ⟨rows, ?_, loaded⟩
      simp [Backend.run, Backend.step, State.setReading, State.setCache, State.loadPhase, idle]
    | false =>
      refine ⟨copy.rows, ?_, settled.reads (.inl cached)⟩
      simp [Backend.run, Backend.step, State.setReading, idle, cached]

end Settled

end

end ShadowPanel.Data.Backend
