import ShadowPanel.Data.Runs

namespace ShadowPanel.Transfers

open Data List

/-! The progress of a transfer, as in `internal/transfers/registry.go`: a writer
counts the parts that it has stored, and readers wait for them one after the
other.  Whoever changes the state replaces the channel under the lock and closes
the old one after it. -/

/-- Channels are numbered in the order in which they are made. -/
structure State where
  parts : Nat
  complete : Bool
  err : Option String
  ch : Nat

inductive Look where
  | available
  | failed (err : String)
  | completed
  | wait (ch : Nat)

namespace State

def registered : State where
  parts := 0
  complete := false
  err := none
  ch := 0

variable (state : State)

def addPart : State × Option Nat :=
  ({ state with parts := state.parts + 1, ch := state.ch + 1 }, some state.ch)

def markComplete : State × Option Nat :=
  if state.complete then (state, none)
  else ({ state with complete := true, ch := state.ch + 1 }, some state.ch)

def setError (err : String) : State × Option Nat :=
  ({ state with err := state.err.or (some err), ch := state.ch + 1 }, some state.ch)

/-- One look of `WaitForPart`: parts come before an error, an error before completion. -/
def look (partNum : Nat) : Look :=
  if state.parts > partNum then .available
  else
    match state.err with
    | some err => .failed err
    | none => if state.complete then .completed else .wait state.ch

def Ended : Prop := state.complete = true ∨ state.err.isSome = true

end State

inductive Ending where
  | complete
  | setError (err : String)
  deriving DecidableEq

def Ending.apply : Ending → State → State × Option Nat
  | .complete, state => state.markComplete
  | .setError err, state => state.setError err

/-- What is left for the writer to do; between its section under the lock and the
closing it holds the channel. -/
structure Writer where
  adds : Nat
  endings : List Ending
  closing : Option Nat
  deriving DecidableEq

structure Shared where
  state : State
  closed : List Nat
  writer : Writer

namespace Shared

variable (shared : Shared)

def write : Shared :=
  match shared.writer.closing, shared.writer.adds, shared.writer.endings with
  | some ch, _, _ =>
    { shared with
      closed := ch :: shared.closed
      writer := { shared.writer with closing := none } }
  | none, adds + 1, _ =>
    { shared with
      state := shared.state.addPart.1
      writer := { shared.writer with adds := adds, closing := shared.state.addPart.2 } }
  | none, 0, ending :: rest =>
    { shared with
      state := (ending.apply shared.state).1
      writer :=
        { shared.writer with endings := rest, closing := (ending.apply shared.state).2 } }
  | none, 0, [] => shared

def WriterDone : Prop := shared.writer = ⟨0, [], none⟩

instance : Decidable shared.WriterDone := by
  unfold WriterDone
  infer_instance

end Shared

inductive Phase where
  | looking
  | waiting (ch : Nat)
  | completed
  | failed (err : String)
  | cancelled
  deriving DecidableEq

structure Reader where
  seen : List Nat
  phase : Phase
  deriving DecidableEq

namespace Reader

def start : Reader where
  seen := []
  phase := .looking

variable (reader : Reader)

/-- Both cases of the `select` may be ready; `cancelled` says that the second is taken. -/
def advance (cancelled : Bool) (shared : Shared) : Reader :=
  match reader.phase with
  | .looking =>
    match shared.state.look reader.seen.length with
    | .available => { reader with seen := reader.seen ++ [reader.seen.length] }
    | .failed err => { reader with phase := .failed err }
    | .completed => { reader with phase := .completed }
    | .wait ch => { reader with phase := .waiting ch }
  | .waiting ch =>
    if cancelled then { reader with phase := .cancelled }
    else if ch ∈ shared.closed then { reader with phase := .looking }
    else reader
  | .completed | .failed _ | .cancelled => reader

def Told : Prop := reader.phase = .completed ∨ ∃ err, reader.phase = .failed err

end Reader

structure Transfer where
  shared : Shared
  readers : List Reader

inductive TransferEvent where
  | write
  | read (index : Nat) (cancelled : Bool)
  deriving DecidableEq

namespace Transfer

def start (n : Nat) (endings : List Ending) (readers : Nat) : Transfer where
  shared := ⟨.registered, [], ⟨n, endings, none⟩⟩
  readers := replicate readers .start

def step (transfer : Transfer) : TransferEvent → Transfer
  | .write => { transfer with shared := transfer.shared.write }
  | .read index cancelled =>
    { transfer with
      readers := transfer.readers.modify index (·.advance cancelled transfer.shared) }

end Transfer

/-- The parts told of are the first ones, the writer ends after the last of `n`
parts, and every channel but the current one is closed once or about to be. -/
structure Shared.Sound (n : Nat) (shared : Shared) : Prop where
  count : shared.state.parts + shared.writer.adds = n
  ending : shared.state.Ended → shared.writer.adds = 0
  ended : shared.writer.endings = [] → shared.state.Ended
  closed : ∀ ch, ch ∈ shared.closed ↔ ch < shared.state.ch ∧ shared.writer.closing ≠ some ch
  closing : ∀ ch, shared.writer.closing = some ch → ch < shared.state.ch
  once : shared.closed.Nodup

/-- A reader that waits on the current channel has found nothing to see, and
nothing has changed since. -/
structure Reader.Sound (n : Nat) (shared : Shared) (reader : Reader) : Prop where
  ordered : reader.seen = range reader.seen.length
  known : reader.seen.length ≤ shared.state.parts
  told : reader.Told → reader.seen.length = n
  waits : ∀ ch, reader.phase = .waiting ch → ch < shared.state.ch ∨
    ch = shared.state.ch ∧ shared.state.parts ≤ reader.seen.length ∧ ¬shared.state.Ended

structure Transfer.Sound (n : Nat) (transfer : Transfer) : Prop where
  shared : transfer.shared.Sound n
  readers : ∀ reader ∈ transfer.readers, reader.Sound n transfer.shared

variable {shared : Shared}

theorem Shared.Sound.replace {state : State} (sound : shared.Sound n)
    (idle : shared.writer.closing = none) (next : state.ch = shared.state.ch + 1)
    (count : state.parts + adds = n) (ending : state.Ended → adds = 0)
    (ended : endings = [] → state.Ended) :
    Shared.Sound n ⟨state, shared.closed, ⟨adds, endings, some shared.state.ch⟩⟩ where
  count := count
  ending := ending
  ended := ended
  closed := by
    intro ch
    rw [sound.closed, idle]
    simp only [ne_eq, Option.some.injEq, reduceCtorEq, not_false_eq_true, and_true]
    omega
  closing := by
    intro ch same
    rw [next, ← Option.some.inj same]
    exact Nat.lt_succ_self _
  once := sound.once

theorem State.ended_markComplete (state : State) : state.markComplete.1.Ended := by
  unfold markComplete
  split
  next complete => exact .inl complete
  next => exact .inl rfl

theorem State.ended_setError (state : State) (err : String) : (state.setError err).1.Ended := by
  refine .inr ?_
  cases stored : state.err <;> simp [setError]

theorem Ending.ended_apply (ending : Ending) (state : State) : (ending.apply state).1.Ended := by
  cases ending with
  | complete => exact state.ended_markComplete
  | setError err => exact state.ended_setError err

theorem Ending.apply_cases (ending : Ending) (state : State) : ending.apply state = (state, none) ∨
    (ending.apply state).1.ch = state.ch + 1 ∧
      (ending.apply state).1.parts = state.parts ∧
      (ending.apply state).2 = some state.ch := by
  cases ending with
  | complete =>
    simp only [apply, State.markComplete]
    split
    · exact .inl rfl
    · exact .inr ⟨rfl, rfl, rfl⟩
  | setError err => exact .inr ⟨rfl, rfl, rfl⟩

theorem Shared.Sound.write (sound : shared.Sound n) : shared.write.Sound n := by
  obtain ⟨state, closed, adds, endings, closing⟩ := shared
  cases closing with
  | some ch =>
    refine ⟨sound.count, sound.ending, sound.ended, ?_, nofun, ?_⟩
    · intro other
      have known := sound.closed other
      have below := sound.closing ch rfl
      simp only [Shared.write] at below ⊢
      grind
    · refine nodup_cons.mpr ⟨?_, sound.once⟩
      intro already
      exact ((sound.closed ch).mp already).2 rfl
  | none =>
    cases adds with
    | succ adds =>
      have count : state.parts + (adds + 1) = n := sound.count
      refine sound.replace rfl rfl ?_ ?_ ?_
      · simp only [State.addPart]
        omega
      · intro ended
        cases sound.ending ended
      · intro none
        cases sound.ending (sound.ended none)
    | zero =>
      cases endings with
      | nil => exact sound
      | cons ending rest =>
        have ended := ending.ended_apply state
        cases ending.apply_cases state with
        | inl same =>
          simp only [Shared.write, same] at ended ⊢
          exact ⟨sound.count, sound.ending, fun _ => ended, sound.closed, nofun, sound.once⟩
        | inr replaced =>
          obtain ⟨next, parts, closing⟩ := replaced
          simp only [Shared.write, closing]
          exact sound.replace rfl next (parts ▸ sound.count) (fun _ => rfl) fun _ => ended

theorem Shared.write_state (shared : Shared) : shared.write.state = shared.state ∨
    shared.write.state.ch = shared.state.ch + 1 ∧
      shared.state.parts ≤ shared.write.state.parts := by
  obtain ⟨state, closed, adds, endings, closing⟩ := shared
  cases closing with
  | some ch => exact .inl rfl
  | none =>
    cases adds with
    | succ adds => exact .inr ⟨rfl, Nat.le_succ _⟩
    | zero =>
      cases endings with
      | nil => exact .inl rfl
      | cons ending rest =>
        cases ending.apply_cases state with
        | inl same => exact .inl (congrArg Prod.fst same)
        | inr replaced => exact .inr ⟨replaced.1, Nat.le_of_eq replaced.2.1.symm⟩

theorem Reader.Sound.write {reader : Reader} (sound : reader.Sound n shared) :
    reader.Sound n shared.write := by
  cases shared.write_state with
  | inl same =>
    obtain ⟨ordered, known, told, waits⟩ := sound
    exact ⟨ordered, by rw [same]; exact known, told, by rw [same]; exact waits⟩
  | inr replaced =>
    obtain ⟨next, more⟩ := replaced
    refine ⟨sound.ordered, Nat.le_trans sound.known more, sound.told, ?_⟩
    intro ch waiting
    cases sound.waits ch waiting with
    | inl earlier | inr current => exact .inl (by omega)

section

variable {state : State}

theorem State.look_available (known : partNum < state.parts) : state.look partNum = .available :=
  if_pos known

theorem State.look_of_parts_le (all : state.parts ≤ partNum) :
    state.look partNum = .completed ∧ state.Ended ∨
      (∃ err, state.look partNum = .failed err) ∧ state.Ended ∨
        state.look partNum = .wait state.ch ∧ ¬state.Ended := by
  unfold look Ended
  rw [if_neg (Nat.not_lt.mpr all)]
  cases state.err with
  | some err => exact .inr (.inl ⟨⟨err, rfl⟩, .inr rfl⟩)
  | none => cases state.complete <;> simp

end

theorem Reader.Sound.advance {reader : Reader} (whole : shared.Sound n)
    (sound : reader.Sound n shared) (cancelled : Bool) :
    (reader.advance cancelled shared).Sound n shared := by
  obtain ⟨seen, phase⟩ := reader
  have ordered : seen = range seen.length := sound.ordered
  have known : seen.length ≤ shared.state.parts := sound.known
  cases phase with
  | looking =>
    by_cases more : seen.length < shared.state.parts
    · simp only [Reader.advance, State.look_available more]
      refine ⟨?_, ?_, nofun, nofun⟩
      · rw [length_append, length_singleton, range_succ, ← ordered]
      · rw [length_append]
        exact more
    · have all : shared.state.parts ≤ seen.length := Nat.le_of_not_lt more
      have last (ended : shared.state.Ended) : seen.length = n := by
        have := whole.count
        have := whole.ending ended
        omega
      rcases State.look_of_parts_le all with ⟨found, ended⟩ | ⟨⟨err, found⟩, ended⟩ | ⟨found, still⟩
      · simp only [Reader.advance, found]
        exact ⟨ordered, known, fun _ => last ended, nofun⟩
      · simp only [Reader.advance, found]
        exact ⟨ordered, known, fun _ => last ended, nofun⟩
      · simp only [Reader.advance, found]
        refine ⟨ordered, known, by simp [Told], ?_⟩
        intro ch waiting
        cases waiting
        exact .inr ⟨rfl, all, still⟩
  | waiting ch =>
    simp only [Reader.advance]
    split
    · exact ⟨ordered, known, by simp [Told], nofun⟩
    · split
      · exact ⟨ordered, known, by simp [Told], nofun⟩
      · exact sound
  | completed | failed | cancelled => exact sound

variable {transfer : Transfer}

theorem Transfer.Sound.step (sound : transfer.Sound n) (event : TransferEvent) :
    (transfer.step event).Sound n := by
  cases event with
  | write => exact ⟨sound.shared.write, fun reader member => (sound.readers reader member).write⟩
  | read index cancelled =>
    refine ⟨sound.shared, ?_⟩
    intro reader member
    obtain ⟨position, found⟩ := mem_iff_getElem?.mp member
    simp only [Transfer.step, getElem?_modify, Option.map_eq_map,
      Option.map_eq_some_iff] at found
    obtain ⟨old, stored, rfl⟩ := found
    have oldSound := sound.readers old (mem_of_getElem? stored)
    split
    · exact oldSound.advance sound.shared cancelled
    · exact oldSound

theorem Transfer.sound_start (nonempty : endings ≠ []) (readers : Nat) :
    (start n endings readers).Sound n := by
  refine ⟨⟨Nat.zero_add n, by simp [start, State.Ended, State.registered], ?_, ?_, nofun, ?_⟩, ?_⟩
  · intro none
    exact absurd none nonempty
  · simp [start, State.registered]
  · exact .nil
  · intro reader member
    cases eq_of_mem_replicate member
    exact ⟨rfl, Nat.le_refl 0, by simp [Reader.Told, Reader.start], nofun⟩

theorem Transfer.Sound.run (sound : transfer.Sound n) (events : List TransferEvent) :
    (Data.run Transfer.step transfer events).Sound n := by
  induction events generalizing transfer with
  | nil => exact sound
  | cons event rest ih => exact ih (sound.step event)

def Reader.turns (n : Nat) (reader : Reader) : Nat :=
  match reader.phase with
  | .looking => n - reader.seen.length + 1
  | .waiting _ => n - reader.seen.length + 2
  | .completed | .failed _ | .cancelled => 0

theorem Reader.told_of_turns {reader : Reader} (none : reader.turns n = 0)
    (going : reader.phase ≠ .cancelled) : reader.Told := by
  obtain ⟨seen, phase⟩ := reader
  cases phase with
  | looking | waiting => simp [turns] at none
  | completed => exact .inl rfl
  | failed err => exact .inr ⟨err, rfl⟩
  | cancelled => exact absurd rfl going

theorem Reader.Sound.turn {reader : Reader} (whole : shared.Sound n) (done : shared.WriterDone)
    (sound : reader.Sound n shared) (going : reader.phase ≠ .cancelled) :
    (reader.advance false shared).turns n ≤ reader.turns n - 1 ∧
      (reader.advance false shared).phase ≠ .cancelled := by
  obtain ⟨state, closed, writer⟩ := shared
  cases done
  obtain ⟨seen, phase⟩ := reader
  have ended : state.Ended := whole.ended rfl
  have count : state.parts = n := whole.count
  cases phase with
  | looking =>
    by_cases more : seen.length < state.parts
    · simp only [Reader.advance, State.look_available more, turns, length_append,
        length_singleton]
      exact ⟨by omega, going⟩
    · rcases State.look_of_parts_le (Nat.le_of_not_lt more) with
        ⟨found, _⟩ | ⟨⟨err, found⟩, _⟩ | ⟨_, still⟩
      · simp [Reader.advance, found, turns]
      · simp [Reader.advance, found, turns]
      · exact absurd ended still
  | waiting ch =>
    have isClosed : ch ∈ closed := by
      refine (whole.closed ch).mpr ⟨?_, nofun⟩
      cases sound.waits ch rfl with
      | inl earlier => exact earlier
      | inr current => exact absurd ended current.2.2
    simp [Reader.advance, isClosed, turns]
  | completed | failed => exact ⟨Nat.zero_le _, going⟩
  | cancelled => exact absurd rfl going

theorem Shared.write_of_done (done : shared.WriterDone) : shared.write = shared := by
  obtain ⟨state, closed, writer⟩ := shared
  cases done
  rfl

theorem Transfer.told_of_turns (sound : transfer.Sound n) (done : transfer.shared.WriterDone)
    (found : transfer.readers[index]? = some reader) (going : reader.phase ≠ .cancelled)
    (uncancelled : .read index true ∉ later)
    (enough : reader.turns n ≤ later.count (.read index false)) :
    ∃ last, (Data.run Transfer.step transfer later).readers[index]? = some last ∧ last.Told := by
  induction later generalizing transfer reader with
  | nil => exact ⟨reader, found, reader.told_of_turns (Nat.le_zero.mp enough) going⟩
  | cons event rest ih =>
    have others := not_mem_of_not_mem_cons uncancelled
    have next := sound.step event
    -- a turn of the reader itself counts; all other events leave it as it is
    by_cases own : event = .read index false
    · subst own
      have turn := (sound.readers reader (mem_of_getElem? found)).turn sound.shared done going
      rw [count_cons_self] at enough
      refine ih next done ?_ turn.2 others (by omega)
      simp [Transfer.step, found]
    · rw [count_cons_of_ne own] at enough
      cases event with
      | write =>
        have same : transfer.step .write = transfer := by
          simp only [Transfer.step, Shared.write_of_done done]
        exact ih next (by rw [same]; exact done) (by rw [same]; exact found) going others
          enough
      | read position cancelled =>
        have different : position ≠ index := by
          rintro rfl
          cases cancelled with
          | true => exact uncancelled mem_cons_self
          | false => exact own rfl
        refine ih next done ?_ going others enough
        simp [Transfer.step, different, found]

/-- In every interleaving no channel is closed twice; every reader sees the parts
in their order, and all of them before it is told of completion or of an error;
and once the writer is done a reader that is not cancelled is told of it within
`n + 2` turns of its own. -/
theorem readers_see_every_part {endings : List Ending} (nonempty : endings ≠ []) (n readers : Nat)
    (events : List TransferEvent) :
    (Data.run Transfer.step (.start n endings readers) events).shared.closed.Nodup ∧
      (∀ reader ∈ (Data.run Transfer.step (.start n endings readers) events).readers,
        (∃ count ≤ n, reader.seen = range count) ∧
          (reader.Told → reader.seen = range n)) ∧
      ((Data.run Transfer.step (.start n endings readers) events).shared.WriterDone →
        ∀ index reader later,
          (Data.run Transfer.step (.start n endings readers) events).readers[index]? = some reader →
          reader.phase ≠ .cancelled → .read index true ∉ later →
          n + 2 ≤ later.count (.read index false) →
          ∃ last, (Data.run Transfer.step (.start n endings readers)
              (events ++ later)).readers[index]? = some last ∧
            last.Told ∧ last.seen = range n) := by
  have sound := (Transfer.sound_start (n := n) nonempty readers).run events
  refine ⟨sound.shared.once, ?_, ?_⟩
  · intro reader member
    have own := sound.readers reader member
    have count := sound.shared.count
    refine ⟨⟨reader.seen.length, ?_, own.ordered⟩, ?_⟩
    · exact Nat.le_trans own.known (by omega)
    · intro told
      rw [own.ordered, own.told told]
  · intro done index reader later found going uncancelled enough
    have few : reader.turns n ≤ n + 2 := by
      unfold Reader.turns
      split <;> omega
    obtain ⟨last, lastFound, told⟩ :=
      Transfer.told_of_turns sound done found going uncancelled (Nat.le_trans few enough)
    rw [run_append]
    have own := (sound.run later).readers last (mem_of_getElem? lastFound)
    refine ⟨last, lastFound, told, ?_⟩
    rw [own.ordered, own.told told]

theorem readers_see_every_part_twoParts :
    ∃ last, (Data.run Transfer.step (.start 2 [.complete, .setError "late"] 1)
        (.read 0 false :: replicate 8 .write ++
          replicate 4 (.read 0 false))).readers[0]? = some last ∧
      last.Told ∧ last.seen = range 2 :=
  (readers_see_every_part (by decide) 2 1 (.read 0 false :: replicate 8 .write)).2.2
    (by decide) 0 ⟨[], .waiting 0⟩ (replicate 4 (.read 0 false)) (by decide) (by decide)
    (by decide) (by decide)

end ShadowPanel.Transfers
