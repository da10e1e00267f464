import ShadowPanel.Data.CacheAside

namespace ShadowPanel.Data.Backend

open CacheAside List

variable {Tables Key Rows Call : Type} {backend : Backend Tables Key Rows Call}

/-! What holds in every state of a clean run. -/

/-- The rows that a transaction left outside the store are the ones its commit
will make true.  Before its deletions are done they may be older. -/
structure Pending (backend : Backend Tables Key Rows Call) (session : Session Tables Key)
    (key : Key) (rows : Rows) : Prop where
  wrote : key ∈ session.wrote
  latest : key ∉ session.outdated
  seen : key ∉ session.outstanding → backend.Reads session.view key rows

def Current (backend : Backend Tables Key Rows Call) (state : State Tables Key Rows) (key : Key)
    (copy : Copy Rows) : Prop :=
  match copy.through.bind state.sessions with
  | none => backend.Reads state.committed key copy.rows
  | some session => backend.Pending session key copy.rows

structure Coherent (backend : Backend Tables Key Rows Call) (state : State Tables Key Rows) :
    Prop where
  started : ∀ id session, state.sessions id = some session → id < state.nextSession
  through : ∀ key copy, state.Copies key copy → ∀ id, copy.through = some id →
    id < state.nextSession
  current : ∀ key copy, state.Copies key copy → backend.Current state key copy
  views : ∀ id session, state.sessions id = some session → ∀ key,
    key ∉ session.wrote → key ∉ session.outdated → backend.Same session.view state.committed key
  exclusive : ∀ id session, state.sessions id = some session → ∀ key,
    key ∈ session.wrote → key ∉ session.outstanding →
      ∀ copy, state.Copies key copy → copy.through = some id

theorem Same.trans (first : backend.Same left middle key) (second : backend.Same middle right key) :
    backend.Same left right key :=
  fun rows => (first rows).trans (second rows)

theorem Same.symm (same : backend.Same left right key) : backend.Same right left key :=
  fun rows => (same rows).symm

section

variable {state after : State Tables Key Rows}

theorem current_of_closed (closed : ∀ id, copy.through = some id → state.sessions id = none) :
    backend.Current state key copy ↔ backend.Reads state.committed key copy.rows := by
  cases through : copy.through with
  | none => simp [Current, through]
  | some id => simp [Current, through, closed id through]

theorem current_of_open {id : Nat} (through : copy.through = some id)
    (opened : state.sessions id = some session) :
    backend.Current state key copy ↔ backend.Pending session key copy.rows := by
  simp [Current, through, opened]

theorem Current.kept (current : backend.Current state key copy)
    (committed : after.committed = state.committed)
    (sessions : ∀ id, copy.through = some id → after.sessions id = state.sessions id) :
    backend.Current after key copy := by
  cases through : copy.through with
  | none => simpa [Current, through, committed] using current
  | some id => simpa [Current, through, committed, sessions id through] using current

theorem copies_setReading (copies : (state.setReading reader reading).Copies key copy) :
    state.Copies key copy ∨ reading.key = key ∧ reading.phase = .loaded copy := by
  obtain cached | ⟨other, held, present, same, loaded⟩ := copies
  · exact .inl (.inl cached)
  · simp only [State.setReading, Function.update_apply] at present
    split at present
    · cases present
      exact .inr ⟨same, loaded⟩
    · exact .inl (.inr ⟨other, held, present, same, loaded⟩)

theorem copies_setCache [DecidableEq Key] (copies : (state.setCache stored value).Copies key copy) :
    state.Copies key copy ∨ key = stored ∧ value = some copy := by
  obtain cached | held := copies
  · simp only [State.setCache, Function.update_apply] at cached
    split at cached
    · exact .inr ⟨‹_›, cached⟩
    · exact .inl (.inl cached)
  · exact .inl (.inr held)

theorem loadPhase_eq_loaded [DecidableEq Key]
    (loaded : state.loadPhase key context rows = .loaded copy) :
    context = none ∧ copy = ⟨rows, none⟩ ∨
      ∃ id session, context = some id ∧ state.sessions id = some session ∧
        copy = ⟨rows, if key ∈ session.wrote then some id else none⟩ := by
  cases context with
  | none =>
    cases loaded
    exact .inl ⟨rfl, rfl⟩
  | some id =>
    cases opened : state.sessions id with
    | none => simp [State.loadPhase, opened] at loaded
    | some session =>
      simp only [State.loadPhase, opened, Phase.loaded.injEq] at loaded
      exact .inr ⟨id, session, rfl, opened, loaded.symm⟩

theorem overtaken_eq_some {id : Nat} : state.overtaken id wrote other = some session ↔
    other ≠ id ∧ ∃ before, state.sessions other = some before ∧
      session = { before with outdated := wrote ++ before.outdated } := by
  by_cases same : other = id
  · simp [State.overtaken, same]
  · simp only [State.overtaken, Function.update_of_ne same, Option.map_eq_some_iff,
      ne_eq, same, not_false_eq_true, true_and, eq_comm (b := session)]

theorem overtaken_eq_none {id : Nat} (closed : other = id ∨ state.sessions other = none) :
    state.overtaken id wrote other = none := by
  cases closed with
  | inl same => simp [State.overtaken, same]
  | inr closed => simp [State.overtaken, Function.update_apply, closed]

end

namespace Coherent

variable {state : State Tables Key Rows}

theorem initial (tables : Tables) :
    backend.Coherent (State.initial tables : State Tables Key Rows) := by
  have empty : ∀ key copy, ¬(State.initial tables : State Tables Key Rows).Copies key copy := by
    intro key copy copies
    obtain cached | ⟨_, _, reading, _⟩ := copies
    · cases cached
    · cases reading
  have closed : ∀ id session,
      (State.initial tables : State Tables Key Rows).sessions id ≠ some session :=
    fun _ _ => nofun
  exact
    { started := fun id session opened => absurd opened (closed id session)
      through := fun key copy copies => absurd copies (empty key copy)
      current := fun key copy copies => absurd copies (empty key copy)
      views := fun id session opened => absurd opened (closed id session)
      exclusive := fun id session opened => absurd opened (closed id session) }

variable (coherent : backend.Coherent state)

include coherent

theorem of_fewer {after : State Tables Key Rows} (committed : after.committed = state.committed)
    (sessions : after.sessions = state.sessions)
    (nextSession : after.nextSession = state.nextSession)
    (fewer : ∀ key copy, after.Copies key copy → state.Copies key copy) :
    backend.Coherent after where
  started := by
    rw [sessions, nextSession]
    exact coherent.started
  through := by
    rw [nextSession]
    intro key copy copies
    exact coherent.through key copy (fewer key copy copies)
  current := by
    intro key copy copies
    exact (coherent.current key copy (fewer key copy copies)).kept committed
      fun id _ => congrFun sessions id
  views := by
    rw [sessions, committed]
    exact coherent.views
  exclusive := by
    rw [sessions]
    intro id session opened key wrote done copy copies
    exact coherent.exclusive id session opened key wrote done copy (fewer key copy copies)

theorem of_reading (empty : ∀ copy, reading.phase ≠ .loaded copy) :
    backend.Coherent (state.setReading reader reading) := by
  refine coherent.of_fewer rfl rfl rfl ?_
  intro key copy copies
  cases copies_setReading copies with
  | inl old => exact old
  | inr new => exact absurd new.2 (empty copy)

theorem of_dropped [DecidableEq Key] (key : Key) : backend.Coherent (state.setCache key none) := by
  refine coherent.of_fewer rfl rfl rfl ?_
  intro other copy copies
  cases copies_setCache copies with
  | inl old => exact old
  | inr new => exact nomatch new.2

theorem of_loaded (through : ∀ id, copy.through = some id → id < state.nextSession)
    (current : backend.Current state key copy)
    (exclusive : ∀ id session, state.sessions id = some session → key ∈ session.wrote →
      key ∉ session.outstanding → copy.through = some id) :
    backend.Coherent (state.setReading reader ⟨key, context, .loaded copy⟩) where
  started := coherent.started
  through := by
    intro other held copies
    cases copies_setReading copies with
    | inl old => exact coherent.through other held old
    | inr new =>
      cases new.2
      exact through
  current := by
    intro other held copies
    cases copies_setReading copies with
    | inl old => exact coherent.current other held old
    | inr new =>
      obtain ⟨rfl, same⟩ := new
      cases same
      exact current
  views := coherent.views
  exclusive := by
    intro id session opened other wrote done held copies
    cases copies_setReading copies with
    | inl old => exact coherent.exclusive id session opened other wrote done held old
    | inr new =>
      obtain ⟨rfl, same⟩ := new
      cases same
      exact exclusive id session opened wrote done

theorem of_session {id : Nat} (opened : state.sessions id = some session)
    (pending : ∀ key copy, state.Copies key copy → copy.through = some id →
      backend.Pending session key copy.rows → backend.Pending moved key copy.rows)
    (views : ∀ key, key ∉ moved.wrote → key ∉ moved.outdated →
      backend.Same moved.view state.committed key)
    (exclusive : ∀ key ∈ moved.wrote, key ∉ moved.outstanding → ∀ copy, state.Copies key copy →
      copy.through = some id) : backend.Coherent (state.setSession id (some moved)) where
  started := by
    intro other found present
    simp only [State.setSession, Function.update_apply] at present
    split at present
    · exact ‹other = id› ▸ coherent.started id session opened
    · exact coherent.started other found present
  through := coherent.through
  current := by
    intro key copy copies
    have current := coherent.current key copy copies
    by_cases through : copy.through = some id
    · have updated : (state.setSession id (some moved)).sessions id = some moved := by
        simp [State.setSession]
      rw [current_of_open through updated]
      exact pending key copy copies through ((current_of_open through opened).mp current)
    · have kept : ∀ other, copy.through = some other →
          (state.setSession id (some moved)).sessions other = state.sessions other := by
        intro other throughOther
        have different : other ≠ id := fun same => through (same ▸ throughOther)
        simp [State.setSession, Function.update_of_ne different]
      exact current.kept rfl kept
  views := by
    intro other found present
    simp only [State.setSession, Function.update_apply] at present
    split at present
    · cases present
      exact views
    · exact coherent.views other found present
  exclusive := by
    intro other found present
    simp only [State.setSession, Function.update_apply] at present
    split at present
    · cases present
      exact ‹other = id› ▸ exclusive
    · exact coherent.exclusive other found present

theorem commit_current {id : Nat} (opened : state.sessions id = some ⟨view, wrote, outdated, []⟩)
    (admitted : backend.Admitted state (.commit id merged)) (copies : state.Copies key copy) :
    backend.Current { state with committed := merged, sessions := state.overtaken id wrote }
      key copy := by
  have promised := admitted _ opened
  have current := coherent.current key copy copies
  have owned : key ∈ wrote → copy.through = some id := by
    intro written
    exact coherent.exclusive id _ opened key written not_mem_nil copy copies
  cases lookup : copy.through.bind state.sessions with
  | none =>
    have closed : ∀ other, copy.through = some other → state.sessions other = none := by
      intro other through
      simpa [through] using lookup
    have unwritten : key ∉ wrote := by
      intro written
      simp [owned written, opened] at lookup
    refine (current_of_closed ?_).mpr (((promised key).1 unwritten _).mpr
      ((current_of_closed closed).mp current))
    intro other through
    exact overtaken_eq_none (.inr (closed other through))
  | some session =>
    obtain ⟨other, through, found⟩ := Option.bind_eq_some_iff.mp lookup
    have pending := (current_of_open through found).mp current
    by_cases same : other = id
    · rw [same, opened] at found
      cases found
      refine (current_of_closed ?_).mpr (((promised key).2 pending.wrote pending.latest
        _).mpr (pending.seen not_mem_nil))
      intro later throughLater
      rw [through] at throughLater
      exact overtaken_eq_none (.inl ((Option.some.inj throughLater).symm.trans same))
    · have unwritten : key ∉ wrote := by
        intro written
        exact same (Option.some.inj (through.symm.trans (owned written)))
      have renewed : state.overtaken id wrote other =
          some { session with outdated := wrote ++ session.outdated } :=
        overtaken_eq_some.mpr ⟨same, session, found, rfl⟩
      have latest : key ∉ wrote ++ session.outdated := by
        simp [unwritten, pending.latest]
      unfold Current
      simp only [through, Option.bind_some, renewed]
      exact ⟨pending.wrote, latest, pending.seen⟩

variable [DecidableEq Key]

theorem start_step : backend.Coherent (backend.step state .start) where
  started := by
    intro id session opened
    simp only [step, State.setSession, Function.update_apply] at opened ⊢
    split at opened
    · omega
    · exact Nat.lt_succ_of_lt (coherent.started id session opened)
  through := by
    intro key copy copies id through
    exact Nat.lt_succ_of_lt (coherent.through key copy copies id through)
  current := by
    intro key copy copies
    have kept : ∀ id, copy.through = some id →
        (backend.step state .start).sessions id = state.sessions id := by
      intro id through
      have old : id ≠ state.nextSession :=
        Nat.ne_of_lt (coherent.through key copy copies id through)
      simp [step, State.setSession, Function.update_of_ne old]
    exact (coherent.current key copy copies).kept rfl kept
  views := by
    intro id session opened key
    simp only [step, State.setSession, Function.update_apply] at opened
    split at opened
    · cases opened
      exact fun _ _ _ => Iff.rfl
    · exact coherent.views id session opened key
  exclusive := by
    intro id session opened key wrote
    simp only [step, State.setSession, Function.update_apply] at opened
    split at opened
    · cases opened
      exact nomatch wrote
    · exact coherent.exclusive id session opened key wrote

theorem refresh_step {id : Nat} (admitted : backend.Admitted state (.refresh id reads view)) :
    backend.Coherent (backend.step state (.refresh id reads view)) := by
  cases opened : state.sessions id with
  | none =>
    simp only [step, opened]
    exact coherent
  | some session =>
    simp only [step, opened]
    have promised := admitted session opened
    refine coherent.of_session opened ?_ ?_ ?_
    · intro key copy _ _ pending
      exact
        { wrote := pending.wrote
          latest := fun outdated => pending.latest (mem_filter.mp outdated).1
          seen := fun done =>
            ((promised key).2.2 pending.wrote pending.latest _).mpr (pending.seen done) }
    · intro key unwritten latest
      by_cases taken : key ∈ reads
      · exact (promised key).2.1 taken unwritten
      · have stillLatest : key ∉ session.outdated := by
          intro outdated
          exact latest (mem_filter.mpr ⟨outdated, by simpa using taken⟩)
        exact ((promised key).1 taken).trans
          (coherent.views id session opened key unwritten stillLatest)
    · exact coherent.exclusive id session opened

theorem write_step (id : Nat) (call : Call) :
    backend.Coherent (backend.step state (.write id call)) := by
  cases opened : state.sessions id with
  | none =>
    simp only [step, opened]
    exact coherent
  | some session =>
    obtain ⟨view, wrote, outdated, outstanding⟩ := session
    cases outstanding with
    | cons key rest =>
      simp only [step, opened]
      exact coherent
    | nil =>
      simp only [step, opened]
      have frame := backend.frame call view
      refine coherent.of_session opened ?_ ?_ ?_
      · intro key copy _ _ pending
        refine ⟨mem_append_right _ pending.wrote, pending.latest, ?_⟩
        intro done
        have untouched : key ∉ backend.changed call :=
          fun changed => done (backend.covered call key changed)
        exact (frame key untouched _).mpr (pending.seen not_mem_nil)
      · intro key unwritten latest
        have untouched : key ∉ backend.changed call :=
          fun changed => unwritten (mem_append_left _ changed)
        have before : key ∉ wrote :=
          fun written => unwritten (mem_append_right _ written)
        exact Same.trans (frame key untouched) (coherent.views id _ opened key before latest)
      · intro key written done
        have untouched : key ∉ backend.changed call :=
          fun changed => done (backend.covered call key changed)
        have before : key ∈ wrote :=
          (mem_append.mp written).resolve_left untouched
        exact coherent.exclusive id _ opened key before not_mem_nil

theorem invalidate_step {id : Nat}
    (clean : state.Clean (.invalidate id : Step Tables Key Rows Call)) :
    backend.Coherent (backend.step state (.invalidate id)) := by
  cases opened : state.sessions id with
  | none =>
    simp only [step, opened]
    exact coherent
  | some session =>
    obtain ⟨view, wrote, outdated, outstanding⟩ := session
    cases outstanding with
    | nil =>
      simp only [step, opened]
      exact coherent
    | cons key rest =>
      simp only [step, opened]
      have gone : ∀ copy, ¬(state.setCache key none).Copies key copy := by
        intro copy copies
        obtain cached | ⟨reader, reading, present, same, loaded⟩ := copies
        · simp [State.setCache] at cached
        · exact clean _ opened key rfl reader reading copy present loaded same
      have dropped := coherent.of_dropped key
      have views := dropped.views id _ opened
      have still : (state.setCache key none).sessions id =
          some ⟨view, wrote, outdated, key :: rest⟩ := opened
      refine dropped.of_session still ?_ views ?_
      · intro other copy copies _ pending
        refine ⟨pending.wrote, pending.latest, ?_⟩
        intro done
        by_cases same : other = key
        · exact absurd (same ▸ copies) (gone copy)
        · exact pending.seen (by simp [same, done])
      · intro other written done copy copies
        by_cases same : other = key
        · exact absurd (same ▸ copies) (gone copy)
        · exact dropped.exclusive id _ opened other written (by simp [same, done]) copy copies

theorem commit_step {id : Nat} (admitted : backend.Admitted state (.commit id merged)) :
    backend.Coherent (backend.step state (.commit id merged)) := by
  cases opened : state.sessions id with
  | none =>
    simp only [step, opened]
    exact coherent
  | some session =>
    obtain ⟨view, wrote, outdated, outstanding⟩ := session
    cases outstanding with
    | cons key rest =>
      simp only [step, opened]
      exact coherent
    | nil =>
      simp only [step, opened]
      refine ⟨?_, coherent.through,
        fun key copy copies => coherent.commit_current opened admitted copies, ?_, ?_⟩
      · intro other session present
        obtain ⟨_, before, found, _⟩ := overtaken_eq_some.mp present
        exact coherent.started other before found
      · intro other session present key unwritten latest
        obtain ⟨_, before, found, rfl⟩ := overtaken_eq_some.mp present
        have apart : key ∉ wrote ∧ key ∉ before.outdated := by simpa using latest
        exact Same.trans (coherent.views other before found key unwritten apart.2)
          ((admitted _ opened key).1 apart.1).symm
      · intro other session present key written done
        obtain ⟨_, before, found, rfl⟩ := overtaken_eq_some.mp present
        exact coherent.exclusive other before found key written done

theorem rollback_step {id : Nat} (clean : state.Clean (.rollback id : Step Tables Key Rows Call)) :
    backend.Coherent (backend.step state (.rollback id)) := by
  have remaining : ∀ other session,
      (state.setSession id none).sessions other = some session →
      state.sessions other = some session := by
    intro other session present
    simp only [State.setSession, Function.update_apply] at present
    split at present
    · cases present
    · exact present
  refine ⟨fun other session present => coherent.started other session
      (remaining other session present), coherent.through, ?_,
    fun other session present => coherent.views other session (remaining other session present),
    fun other session present => coherent.exclusive other session (remaining other session present)⟩
  intro key copy copies
  have kept : ∀ other, copy.through = some other →
      (state.setSession id none).sessions other = state.sessions other := by
    intro other through
    by_cases same : other = id
    · cases opened : state.sessions id with
      | none => simp [State.setSession, same, opened]
      | some session =>
        exact absurd (same ▸ through) (clean (by simp [opened]) key copy copies)
    · simp [State.setSession, Function.update_of_ne same]
  exact (coherent.current key copy copies).kept rfl kept

theorem lookup_step (reader : Nat) (refused : Bool) :
    backend.Coherent (backend.step state (.lookup reader refused)) := by
  simp only [step]
  split
  · split
    · exact coherent.of_reading (fun _ => nofun)
    · exact coherent.of_reading (fun _ => nofun)
  · exact coherent

theorem load_step (admitted : backend.Admitted state (.load reader rows))
    (clean : state.Clean (.load reader rows : Step Tables Key Rows Call)) :
    backend.Coherent (backend.step state (.load reader rows)) := by
  simp only [step]
  split
  case h_2 => exact coherent
  case h_1 key context present =>
    have promised := admitted _ present
    have apart := clean _ present
    cases loaded : state.loadPhase key context rows with
    | loaded copy =>
      cases loadPhase_eq_loaded loaded with
      | inl outside =>
        obtain ⟨rfl, rfl⟩ := outside
        refine coherent.of_loaded (fun _ => nofun) promised ?_
        intro id session opened wrote done
        exact absurd ((apart id session opened).2 nofun wrote) done
      | inr inside =>
        obtain ⟨id, session, rfl, opened, rfl⟩ := inside
        have latest := (apart id session opened).1 rfl
        have others : ∀ other found, state.sessions other = some found →
            key ∈ found.wrote → key ∉ found.outstanding → some id = some other := by
          intro other found present wrote done
          apply Classical.byContradiction
          intro different
          exact done ((apart other found present).2 different wrote)
        by_cases wrote : key ∈ session.wrote
        · rw [if_pos wrote]
          refine coherent.of_loaded ?_ ?_ others
          · intro other same
            cases same
            exact coherent.started id session opened
          · exact (current_of_open rfl opened).mpr ⟨wrote, latest, fun _ => promised session opened⟩
        · rw [if_neg wrote]
          refine coherent.of_loaded (fun _ => nofun)
            ((coherent.views id session opened key wrote latest _).mp (promised session opened)) ?_
          intro other found present otherWrote done
          have same := Option.some.inj (others other found present otherWrote done)
          subst same
          rw [opened] at present
          cases present
          exact absurd otherWrote wrote
    | _ => exact coherent.of_reading (fun _ => nofun)

theorem store_step (reader : Nat) (failed : Bool) :
    backend.Coherent (backend.step state (.store reader failed)) := by
  simp only [step]
  split
  case h_2 => exact coherent
  case h_1 key context copy present =>
    split
    · exact coherent.of_reading (fun _ => nofun)
    · refine coherent.of_fewer rfl rfl rfl ?_
      intro other held copies
      cases copies_setReading copies with
      | inr new => exact nomatch new.2
      | inl stored =>
        cases copies_setCache stored with
        | inl old => exact old
        | inr new =>
          obtain ⟨rfl, same⟩ := new
          cases same
          exact .inr ⟨reader, _, present, rfl, rfl⟩

theorem reread_step (reader : Nat) (refused : Bool) :
    backend.Coherent (backend.step state (.reread reader refused)) := by
  simp only [step]
  split
  · split
    · exact coherent.of_reading (fun _ => nofun)
    · exact coherent.of_reading (fun _ => nofun)
  · exact coherent

theorem step {step : Step Tables Key Rows Call} (admitted : backend.Admitted state step)
    (clean : state.Clean step) : backend.Coherent (backend.step state step) := by
  cases step with
  | start => exact coherent.start_step
  | refresh id keys view => exact coherent.refresh_step admitted
  | write id call => exact coherent.write_step id call
  | invalidate id => exact coherent.invalidate_step clean
  | commit id merged => exact coherent.commit_step admitted
  | rollback id => exact coherent.rollback_step clean
  | read reader key context =>
    cases present : state.readings reader with
    | none =>
      simp only [Backend.step, present]
      exact coherent.of_reading (fun _ => nofun)
    | some reading =>
      simp only [Backend.step, present]
      exact coherent
  | lookup reader refused => exact coherent.lookup_step reader refused
  | load reader rows => exact coherent.load_step admitted clean
  | store reader failed => exact coherent.store_step reader failed
  | reread reader refused => exact coherent.reread_step reader refused
  | expire key => exact coherent.of_dropped key

theorem run (admitted : backend.Along backend.Admitted state steps)
    (clean : backend.Along State.Clean state steps) :
    backend.Coherent (backend.run state steps) := by
  induction steps generalizing state with
  | nil => exact coherent
  | cons step rest ih =>
    exact ih (coherent.step admitted.1 clean.1) admitted.2 clean.2

end Coherent

end ShadowPanel.Data.Backend
