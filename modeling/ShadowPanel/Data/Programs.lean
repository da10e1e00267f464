import ShadowPanel.Data.Interleaving

namespace ShadowPanel.Data

universe u v w

/-! Code as a tree of atomic calls, each followed by what is done with its answer. -/

inductive Program (Op : Type u) (Answer : Op → Type u) (ε α : Type u) where
  | done (result : Except ε α)
  | call (op : Op) (next : Answer op → Program Op Answer ε α)

namespace Program

variable {Op : Type u} {Answer : Op → Type u} {ε α β : Type u}

def perform (op : Op) : Program Op Answer ε (Answer op) := .call op fun answer => .done (.ok answer)

def andThen {ε₁ ε₂ : Type u} (rest : Except ε₁ α → Program Op Answer ε₂ β) :
    Program Op Answer ε₁ α → Program Op Answer ε₂ β
  | .done result => rest result
  | .call op next => .call op fun answer => (next answer).andThen rest

def onSuccess (rest : α → Program Op Answer ε β) : Except ε α → Program Op Answer ε β
  | .ok value => rest value
  | .error error => .done (.error error)

def onFailure (rest : ε → Program Op Answer ε α) : Except ε α → Program Op Answer ε α
  | .ok value => .done (.ok value)
  | .error error => rest error

instance : Monad (Program Op Answer ε) where
  pure value := .done (.ok value)
  bind first rest := first.andThen (onSuccess rest)

instance : MonadExcept ε (Program Op Answer ε) where
  throw error := .done (.error error)
  tryCatch action rest := action.andThen (onFailure rest)

def attempt {ε₁ ε₂ : Type u} (program : Program Op Answer ε₁ α) :
    Program Op Answer ε₂ (Except ε₁ α) :=
  program.andThen fun result => .done (.ok result)

def eval {State : Type v} (handle : State → (op : Op) → State × Answer op) :
    Program Op Answer ε α → State → State × Except ε α
  | .done result, state => (state, result)
  | .call op next, state => (next (handle state op).2).eval handle (handle state op).1

section

variable {State : Type v} {handle : State → (op : Op) → State × Answer op}

theorem eval_andThen (first : Program Op Answer ε₁ α)
    (rest : Except ε₁ α → Program Op Answer ε₂ β) :
    (first.andThen rest).eval handle state =
      (rest (first.eval handle state).2).eval handle (first.eval handle state).1 := by
  induction first generalizing state with
  | done result => rfl
  | call op next ih => exact ih (handle state op).2

theorem eval_bind_ok {first : Program Op Answer ε α}
    (evaluated : first.eval handle state = (after, .ok value)) :
    (first >>= rest).eval handle state = (rest value).eval handle after := by
  refine (eval_andThen first _).trans ?_
  rw [evaluated]
  rfl

theorem eval_bind_error {rest : α → Program Op Answer ε β}
    (evaluated : first.eval handle state = (after, .error error)) :
    (first >>= rest).eval handle state = (after, .error error) := by
  refine (eval_andThen first _).trans ?_
  rw [evaluated]
  rfl

theorem eval_tryCatch_ok {rest : ε → Program Op Answer ε α}
    (evaluated : action.eval handle state = (after, .ok value)) :
    (tryCatch action rest).eval handle state = (after, .ok value) := by
  refine (eval_andThen action _).trans ?_
  rw [evaluated]
  rfl

theorem eval_tryCatch_error {rest : ε → Program Op Answer ε α}
    (evaluated : action.eval handle state = (after, .error error)) :
    (tryCatch action rest).eval handle state = (rest error).eval handle after := by
  refine (eval_andThen action _).trans ?_
  rw [evaluated]
  rfl

theorem eval_attempt {program : Program Op Answer ε₁ α} :
    (program.attempt : Program Op Answer ε₂ _).eval handle state =
      ((program.eval handle state).1, .ok (program.eval handle state).2) :=
  eval_andThen program _

end

end Program

/-- What a program may call by what it knows, the answers that a call can have, and what
is known after one. -/
structure Discipline (Known : Type v) (Op : Type u) (Answer : Op → Type u) where
  allowed : Known → Op → Prop
  possible : (op : Op) → Answer op → Prop
  learn : Known → (op : Op) → Answer op → Known

namespace Program

variable {Op : Type u} {Answer : Op → Type u} {ε α β : Type u} {Known : Type v}

/-- Every call of the program is allowed by what it knows then, and `post` holds of its
result and of what it knows at its end. -/
def Obeys (rules : Discipline Known Op Answer) (post : Except ε α → Known → Prop) :
    Program Op Answer ε α → Known → Prop
  | .done result, known => post result known
  | .call op next, known =>
    rules.allowed known op ∧
      ∀ answer, rules.possible op answer →
        (next answer).Obeys rules post (rules.learn known op answer)

theorem obeys_andThen {first : Program Op Answer ε₁ α} :
    (first.andThen rest).Obeys rules post known ↔
      first.Obeys rules (fun result known => (rest result).Obeys rules post known) known := by
  induction first generalizing known with
  | done result => exact .rfl
  | call op next ih =>
    refine and_congr_right fun _ => forall_congr' fun answer => ?_
    exact imp_congr_right fun _ => ih answer

theorem Obeys.mono {program : Program Op Answer ε α} (obeys : program.Obeys rules post known)
    (implies : ∀ result known, post result known → wider result known) :
    program.Obeys rules wider known := by
  induction program generalizing known with
  | done result => exact implies result known obeys
  | call op next ih =>
    refine ⟨obeys.1, ?_⟩
    intro answer possible
    exact ih answer (obeys.2 answer possible)

theorem Obeys.bind {first : Program Op Answer ε α} {post : Except ε β → Known → Prop}
    (obeys : first.Obeys rules between known)
    (succeeds : ∀ value known, between (.ok value) known → (rest value).Obeys rules post known)
    (fails : ∀ error known, between (.error error) known → post (.error error) known) :
    (first >>= rest).Obeys rules post known := by
  refine obeys_andThen.mpr (obeys.mono ?_)
  intro result known holds
  cases result with
  | ok value => exact succeeds value known holds
  | error error => exact fails error known holds

def Returns (rules : Discipline Known Op Answer) (post : α → Known → Prop)
    (program : Program Op Answer ε α) (known : Known) : Prop :=
  program.Obeys rules (fun result after => ∃ value, result = .ok value ∧ post value after) known

namespace Returns

variable {post : α → Known → Prop}

theorem pure (holds : post value known) :
    Returns rules post (Pure.pure value : Program Op Answer ε α) known :=
  ⟨value, rfl, holds⟩

theorem obeys_bind {rest : α → Program Op Answer ε β} (returns : Returns rules post first known)
    (later : ∀ value known, post value known → (rest value).Obeys rules wanted known) :
    (first >>= rest).Obeys rules wanted known := by
  refine Obeys.bind returns ?_ ?_
  · intro value known holds
    obtain ⟨_, same, holds⟩ := holds
    cases same
    exact later _ known holds
  · intro error known holds
    obtain ⟨_, same, _⟩ := holds
    cases same

theorem bind (returns : Returns rules post first known)
    (later : ∀ value known, post value known → Returns rules wanted (rest value) known) :
    Returns rules wanted (first >>= rest) known :=
  returns.obeys_bind later

end Returns

def Silent (rules : Discipline Known Op Answer) (program : Program Op Answer ε α) : Prop :=
  ∀ known, program.Obeys rules (fun _ after => after = known) known

namespace Silent

theorem pure (value : α) : Silent rules (Pure.pure value : Program Op Answer ε α) := by
  intro known
  rfl

theorem throw (error : ε) : Silent rules (MonadExcept.throw error : Program Op Answer ε α) := by
  intro known
  rfl

theorem obeys_bind {rest : α → Program Op Answer ε β} (silent : Silent rules first)
    (later : ∀ value, (rest value).Obeys rules post known)
    (fails : ∀ error, post (.error error) known) : (first >>= rest).Obeys rules post known := by
  refine (silent known).bind ?_ ?_
  · rintro value _ rfl
    exact later value
  · rintro error _ rfl
    exact fails error

theorem bind (silent : Silent rules first) (later : ∀ value, Silent rules (rest value)) :
    Silent rules (first >>= rest) := by
  intro known
  exact silent.obeys_bind (fun value => later value known) fun _ => rfl

end Silent

end Program

structure Thread (Known : Type w) (Op : Type u) (Answer : Op → Type u) (ε α : Type u) where
  known : Known
  rest : Program Op Answer ε α

namespace Thread

variable {Known : Type w} {Op : Type u} {Answer : Op → Type u} {ε α : Type u}
variable {Shared Input : Type v}
variable (rules : Discipline Known Op Answer)
  (handle : Input → Shared → (op : Op) → Shared × Answer op)

def act (input : Input) (shared : Shared) (thread : Thread Known Op Answer ε α) :
    Shared × Thread Known Op Answer ε α :=
  match thread.rest with
  | .done _ => (shared, thread)
  | .call op next =>
    ((handle input shared op).1,
      { known := rules.learn thread.known op (handle input shared op).2
        rest := next (handle input shared op).2 })

variable {rules handle} {post : Except ε α → Known → Prop}

theorem obeys_act_of_possible {thread : Thread Known Op Answer ε α}
    (possible : ∀ op next, thread.rest = .call op next →
      rules.possible op (handle input shared op).2)
    (obeys : thread.rest.Obeys rules post thread.known) :
    (thread.act rules handle input shared).2.rest.Obeys rules post
      (thread.act rules handle input shared).2.known := by
  obtain ⟨known, rest⟩ := thread
  cases rest with
  | done result => exact obeys
  | call op next => exact obeys.2 _ (possible op next rfl)

theorem obeys_act (possible : ∀ input shared op, rules.possible op (handle input shared op).2)
    {input : Input} {shared : Shared} {thread : Thread Known Op Answer ε α}
    (obeys : thread.rest.Obeys rules post thread.known) :
    (thread.act rules handle input shared).2.rest.Obeys rules post
      (thread.act rules handle input shared).2.known :=
  obeys_act_of_possible (fun op _ _ => possible input shared op) obeys

end Thread

end ShadowPanel.Data
