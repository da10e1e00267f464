import Mathlib.Logic.Function.Basic

namespace ShadowPanel.Data

/-! A cache beside a transactional store.  A read looks the key up, loads the
rows from the store when it misses, stores them and reads the cache again.  A
write changes the store inside a transaction and then deletes the keys it
changed from the cache, before the transaction ends.  Every one of these is a
step of its own, and the steps of all readings and transactions interleave. -/

/-- A store with the keys that each call changes and the keys that it deletes
from the cache afterwards. -/
structure Backend (Tables Key Rows Call : Type) where
  Reads : Tables → Key → Rows → Prop
  apply : Call → Tables → Tables
  changed : Call → List Key
  invalidated : Call → List Key
  frame : ∀ call tables key, key ∉ changed call →
    ∀ rows, Reads (apply call tables) key rows ↔ Reads tables key rows
  covered : ∀ call key, key ∈ changed call → key ∈ invalidated call

namespace CacheAside

variable {Tables Key Rows Call : Type} [DecidableEq Key]

/-- An open transaction.  `outdated` are the keys that another transaction has
committed since this one last took its view of them; `outstanding` are the
deletions that the call under way still has to make. -/
structure Session (Tables Key : Type) where
  view : Tables
  wrote : List Key
  outdated : List Key
  outstanding : List Key

/-- Rows outside the store.  `through` is a history variable: the transaction
whose own uncommitted rows these are. -/
structure Copy (Rows : Type) where
  rows : Rows
  through : Option Nat

inductive Phase (Rows : Type) where
  | looking
  | missed
  | loaded (copy : Copy Rows)
  | settled
  | returned (rows : Rows)
  | failed

structure Reading (Key Rows : Type) where
  key : Key
  context : Option Nat
  phase : Phase Rows

structure State (Tables Key Rows : Type) where
  committed : Tables
  cache : Key → Option (Copy Rows)
  sessions : Nat → Option (Session Tables Key)
  nextSession : Nat
  readings : Nat → Option (Reading Key Rows)

/-- The choices of the store are part of the step: the rows of a load and the
tables after a commit.  With `refresh` a transaction comes to see what others
have committed; a store that reads committed rows refreshes all the time, one
that reads from a snapshot never does. -/
inductive Step (Tables Key Rows Call : Type) where
  | start
  | refresh (session : Nat) (keys : List Key) (view : Tables)
  | write (session : Nat) (call : Call)
  | invalidate (session : Nat)
  | commit (session : Nat) (merged : Tables)
  | rollback (session : Nat)
  | read (reader : Nat) (key : Key) (context : Option Nat)
  | lookup (reader : Nat) (refused : Bool)
  | load (reader : Nat) (rows : Rows)
  | store (reader : Nat) (failed : Bool)
  | reread (reader : Nat) (refused : Bool)
  | expire (key : Key)

def Step.isWrite : Step Tables Key Rows Call → Bool
  | .write _ _ => true
  | _ => false

def Step.isReading : Step Tables Key Rows Call → Bool
  | .read _ _ _ | .lookup _ _ | .load _ _ | .store _ _ | .reread _ _ | .expire _ => true
  | _ => false

namespace State

variable (state : State Tables Key Rows)

def initial (tables : Tables) : State Tables Key Rows where
  committed := tables
  cache := fun _ => none
  sessions := fun _ => none
  nextSession := 0
  readings := fun _ => none

def setSession (id : Nat) (session : Option (Session Tables Key)) : State Tables Key Rows :=
  { state with sessions := Function.update state.sessions id session }

def setReading (reader : Nat) (reading : Reading Key Rows) : State Tables Key Rows :=
  { state with readings := Function.update state.readings reader (some reading) }

def setCache (key : Key) (copy : Option (Copy Rows)) : State Tables Key Rows :=
  { state with cache := Function.update state.cache key copy }

def overtaken (id : Nat) (wrote : List Key) : Nat → Option (Session Tables Key) :=
  Function.update
    (fun other => (state.sessions other).map fun session =>
      { session with outdated := wrote ++ session.outdated }) id none

/-- The loader runs in the context of the call, so inside a transaction it
reads that transaction's view. -/
def loadPhase (key : Key) (context : Option Nat) (rows : Rows) : Phase Rows :=
  match context with
  | none => .loaded ⟨rows, none⟩
  | some id =>
    match state.sessions id with
    | none => .failed
    | some session => .loaded ⟨rows, if key ∈ session.wrote then some id else none⟩

def Copies (key : Key) (copy : Copy Rows) : Prop :=
  state.cache key = some copy ∨ ∃ reader reading,
    state.readings reader = some reading ∧ reading.key = key ∧ reading.phase = .loaded copy

/-- No step falls between a change of a key and the end of its transaction in
a way that the deletions cannot repair. -/
def Clean : Step Tables Key Rows Call → Prop
  | .invalidate id => ∀ session, state.sessions id = some session →
      ∀ key, session.outstanding.head? = some key →
        ∀ reader reading copy, state.readings reader = some reading →
          reading.phase = .loaded copy → reading.key ≠ key
  | .rollback id => (state.sessions id).isSome →
      ∀ key copy, state.Copies key copy → copy.through ≠ some id
  | .load reader _ => ∀ reading, state.readings reader = some reading →
      ∀ id session, state.sessions id = some session →
        (reading.context = some id → reading.key ∉ session.outdated) ∧
        (reading.context ≠ some id → reading.key ∈ session.wrote →
          reading.key ∈ session.outstanding)
  | _ => True

end State

end CacheAside

namespace Backend

open CacheAside

variable {Tables Key Rows Call : Type} [DecidableEq Key]
variable (backend : Backend Tables Key Rows Call)

/-- A step that its transaction or reading is not ready for does nothing. -/
def step (state : State Tables Key Rows) : Step Tables Key Rows Call → State Tables Key Rows
  | .start =>
    { state.setSession state.nextSession (some ⟨state.committed, [], [], []⟩) with
      nextSession := state.nextSession + 1 }
  | .refresh id keys view =>
    match state.sessions id with
    | none => state
    | some session =>
      state.setSession id (some { session with
        view := view
        outdated := session.outdated.filter fun key => !keys.contains key })
  | .write id call =>
    match state.sessions id with
    | some ⟨view, wrote, outdated, []⟩ =>
      state.setSession id (some
        ⟨backend.apply call view, backend.changed call ++ wrote, outdated,
          backend.invalidated call⟩)
    | _ => state
  | .invalidate id =>
    match state.sessions id with
    | some ⟨view, wrote, outdated, key :: rest⟩ =>
      (state.setCache key none).setSession id (some ⟨view, wrote, outdated, rest⟩)
    | _ => state
  | .commit id merged =>
    match state.sessions id with
    | some ⟨_, wrote, _, []⟩ =>
      { state with committed := merged, sessions := state.overtaken id wrote }
    | _ => state
  | .rollback id => state.setSession id none
  | .read reader key context =>
    match state.readings reader with
    | none => state.setReading reader ⟨key, context, .looking⟩
    | some _ => state
  | .lookup reader refused =>
    match state.readings reader with
    | some ⟨key, context, .looking⟩ =>
      if (state.cache key).isSome && !refused then
        state.setReading reader ⟨key, context, .settled⟩
      else
        state.setReading reader ⟨key, context, .missed⟩
    | _ => state
  | .load reader rows =>
    match state.readings reader with
    | some ⟨key, context, .missed⟩ =>
      state.setReading reader ⟨key, context, state.loadPhase key context rows⟩
    | _ => state
  | .store reader failed =>
    match state.readings reader with
    | some ⟨key, context, .loaded copy⟩ =>
      if failed then
        state.setReading reader ⟨key, context, .settled⟩
      else
        (state.setCache key (some copy)).setReading reader ⟨key, context, .settled⟩
    | _ => state
  | .reread reader refused =>
    match state.readings reader with
    | some ⟨key, context, .settled⟩ =>
      match state.cache key, refused with
      | some copy, false => state.setReading reader ⟨key, context, .returned copy.rows⟩
      | _, _ => state.setReading reader ⟨key, context, .failed⟩
    | _ => state
  | .expire key => state.setCache key none

def run (state : State Tables Key Rows) (steps : List (Step Tables Key Rows Call)) :
    State Tables Key Rows :=
  steps.foldl backend.step state

def Same (left right : Tables) (key : Key) : Prop :=
  ∀ rows, backend.Reads left key rows ↔ backend.Reads right key rows

/-- What the store promises about its own choices: a load returns rows of the
view it reads, nobody sees the uncommitted rows of another transaction, and a
commit changes the keys that were written and leaves on them what the
transaction saw, unless another transaction has committed the key meanwhile. -/
def Admitted (state : State Tables Key Rows) : Step Tables Key Rows Call → Prop
  | .refresh id keys view => ∀ session, state.sessions id = some session →
      ∀ key,
        (key ∉ keys → backend.Same view session.view key) ∧
        (key ∈ keys → key ∉ session.wrote → backend.Same view state.committed key) ∧
        (key ∈ session.wrote → key ∉ session.outdated → backend.Same view session.view key)
  | .commit id merged => ∀ session, state.sessions id = some session →
      ∀ key,
        (key ∉ session.wrote → backend.Same merged state.committed key) ∧
        (key ∈ session.wrote → key ∉ session.outdated → backend.Same merged session.view key)
  | .load reader rows => ∀ reading, state.readings reader = some reading →
      match reading.context with
      | none => backend.Reads state.committed reading.key rows
      | some id => ∀ session, state.sessions id = some session →
          backend.Reads session.view reading.key rows
  | _ => True

def Along (condition : State Tables Key Rows → Step Tables Key Rows Call → Prop)
    (state : State Tables Key Rows) : List (Step Tables Key Rows Call) → Prop
  | [] => True
  | step :: rest => condition state step ∧ Along condition (backend.step state step) rest

end Backend

end ShadowPanel.Data
