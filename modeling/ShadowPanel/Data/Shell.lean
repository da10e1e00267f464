import ShadowPanel.Data.Replacement

namespace ShadowPanel.Data

open List

/-! How a POSIX shell splits a line into words and operators.  A line may have places,
written `none`, whose text is not known yet; here-documents are not read. -/

def apostrophe : Char := Char.ofNat 39

def backquote : Char := Char.ofNat 96

inductive Context where
  | substitution
  | group
  | braces (quoted : Bool)
  | single
  | double
  | arithmetic
  | backquoted
  | comment
  deriving DecidableEq, Repr

inductive Pending where
  | nothing
  | escape
  | dollar
  | substitution
  deriving DecidableEq, Repr

structure Reader where
  pending : Pending
  contexts : List Context
  inWord : Bool
  deriving Repr

inductive Mark (α : Type) where
  | start
  | part (symbol : α)
  | finish
  | operator (char : Char)
  deriving Repr

namespace Mark

def map {α β : Type} (embed : α → β) : Mark α → Mark β
  | start => start
  | part symbol => part (embed symbol)
  | finish => finish
  | operator char => operator char

end Mark

namespace Reader

def start (reader : Reader) {α : Type} : List (Mark α) := if reader.inWord then [] else [.start]

def finish (reader : Reader) {α : Type} : List (Mark α) := if reader.inWord then [.finish] else []

def word (pending : Pending) (contexts : List Context) : Reader :=
  { pending, contexts, inWord := true }

def gap (pending : Pending) (contexts : List Context) : Reader :=
  { pending, contexts, inWord := false }

def parts (reader : Reader) (contexts : List Context) (chars : List Char) :
    Reader × List (Mark Char) :=
  (word .nothing contexts, reader.start ++ chars.map .part)

def operator (reader : Reader) (next : Reader) (char : Char) : Reader × List (Mark Char) :=
  (next, reader.finish ++ [.operator char])

section

variable (reader : Reader)

def expand (char : Char) : Reader × List (Mark Char) :=
  if char = '\\' then ({ reader with pending := .escape }, [])
  else if char = '$' then (word .dollar reader.contexts, reader.start ++ [.part char])
  else if char = backquote then reader.parts (.backquoted :: reader.contexts) [char]
  else reader.parts reader.contexts [char]

def quote (context : Context) : Reader × List (Mark Char) :=
  (word .nothing (context :: reader.contexts), reader.start)

def escaped (char : Char) : Reader × List (Mark Char) :=
  if char = '\n' then ({ reader with pending := .nothing }, [])
  else
    match reader.contexts with
    | .backquoted :: _ => reader.parts reader.contexts ['\\', char]
    | .double :: _ | .arithmetic :: _ | .braces true :: _ =>
      if char = '$' ∨ char = backquote ∨ char = '"' ∨ char = '\\' then
        reader.parts reader.contexts [char]
      else reader.parts reader.contexts ['\\', char]
    | _ => reader.parts reader.contexts [char]

def close : Reader × List (Mark Char) :=
  match reader.contexts with
  | .substitution :: outer => (word .nothing outer, reader.finish ++ [.operator ')', .start])
  | .group :: outer => reader.operator (gap .nothing outer) ')'
  | contexts => reader.operator (gap .nothing contexts) ')'

def split (char : Char) : Reader × List (Mark Char) :=
  if char = ' ' ∨ char = '\t' then (gap .nothing reader.contexts, reader.finish)
  else if char = '\n' ∨ char = '|' ∨ char = '&' ∨ char = ';' ∨ char = '<' ∨ char = '>' then
    reader.operator (gap .nothing reader.contexts) char
  else if char = '(' then reader.operator (gap .nothing (.group :: reader.contexts)) char
  else if char = ')' then reader.close
  else if char = '#' ∧ ¬reader.inWord then (gap .nothing (.comment :: reader.contexts), [])
  else if char = apostrophe then reader.quote .single
  else if char = '"' then reader.quote .double
  else reader.expand char

def inContext (char : Char) : Reader × List (Mark Char) :=
  match reader.contexts with
  | .single :: outer =>
    if char = apostrophe then reader.parts outer [] else reader.parts reader.contexts [char]
  | .double :: outer =>
    if char = '"' then reader.parts outer [] else reader.expand char
  | .arithmetic :: outer =>
    if char = '(' then reader.parts (.arithmetic :: reader.contexts) [char]
    else if char = ')' then reader.parts outer [char]
    else reader.expand char
  | .braces quoted :: outer =>
    if char = '\x7d' then reader.parts outer [char]
    else if char = '"' then reader.quote .double
    else if char = apostrophe ∧ ¬quoted then reader.quote .single
    else reader.expand char
  | .backquoted :: outer =>
    if char = backquote then reader.parts outer [char]
    else if char = '\\' then ({ reader with pending := .escape }, [])
    else reader.parts reader.contexts [char]
  | .comment :: outer =>
    if char = '\n' then reader.operator (gap .nothing outer) char else (reader, [])
  | _ => reader.split char

def quoted : Bool :=
  match reader.contexts with
  | .double :: _ | .arithmetic :: _ | .braces true :: _ => true
  | _ => false

def step (char : Char) : Reader × List (Mark Char) :=
  match reader.pending with
  | .escape => reader.escaped char
  | .dollar =>
    if char = '(' then
      reader.operator (gap .substitution (.substitution :: reader.contexts)) char
    else if char = '\x7b' then reader.parts (.braces reader.quoted :: reader.contexts) [char]
    else reader.inContext char
  | .substitution =>
    -- two parentheses after a dollar begin an arithmetic expression
    if char = '(' then
      reader.parts (.arithmetic :: .arithmetic :: reader.contexts.tail) [char]
    else reader.inContext char
  | .nothing => reader.inContext char

/-- Quotes, comments, expansions and backslashes do not reach to where the reader is. -/
def Plain : Prop :=
  (reader.pending = .nothing ∨ reader.pending = .substitution) ∧
    (reader.contexts.head? = none ∨ reader.contexts.head? = some .substitution ∨
      reader.contexts.head? = some .group)

end

instance (reader : Reader) : Decidable reader.Plain := inferInstanceAs (Decidable (_ ∧ _))

def symbol (reader : Reader) : Option Char → Reader × List (Mark (Option Char))
  | some char => ((reader.step char).1, (reader.step char).2.map (Mark.map some))
  | none => (word .nothing reader.contexts, reader.start ++ [.part none])

def read (reader : Reader) : List (Option Char) → Reader × List (Mark (Option Char))
  | [] => (reader, [])
  | symbol :: rest =>
    let next := reader.symbol symbol
    let last := next.1.read rest
    (last.1, next.2 ++ last.2)

def OutsideQuotes (reader : Reader) : List (Option Char) → Prop
  | [] => True
  | symbol :: rest => (symbol = none → reader.Plain) ∧ (reader.symbol symbol).1.OutsideQuotes rest

instance decidableOutsideQuotes (reader : Reader) :
    (line : List (Option Char)) → Decidable (reader.OutsideQuotes line)
  | [] => .isTrue trivial
  | symbol :: rest =>
    have := decidableOutsideQuotes (reader.symbol symbol).1 rest
    inferInstanceAs (Decidable (_ ∧ _))

end Reader

inductive Token where
  | word (symbols : List (Option Char))
  | operator (char : Char)
  deriving DecidableEq, Repr

def gather (word : List (Option Char)) : List (Mark (Option Char)) → List Token
  | [] => []
  | .start :: rest => gather [] rest
  | .part symbol :: rest => gather (word ++ [symbol]) rest
  | .finish :: rest => .word word :: gather [] rest
  | .operator char :: rest => .operator char :: gather word rest

def shellTokens (line : List (Option Char)) : Option (List Token) :=
  let last := (Reader.gap .nothing []).read line
  if last.1.pending ≠ .escape ∧ ∀ context ∈ last.1.contexts, context = .comment then
    some (gather [] (last.2 ++ last.1.finish))
  else none

/-- An apostrophe closes the quotes, stands after a backslash and opens them again. -/
def escapeApostrophe (char : Char) : List Char :=
  if char = apostrophe then [apostrophe, '\\', apostrophe, apostrophe] else [char]

def singleQuoted (text : List Char) : List Char :=
  apostrophe :: (text.flatMap escapeApostrophe ++ [apostrophe])

theorem prefix_of_prefix_escaped (absent : apostrophe ∉ pattern)
    (occurs : pattern <+: text.flatMap escapeApostrophe ++ [apostrophe]) : pattern <+: text := by
  induction pattern generalizing text with
  | nil => exact nil_prefix
  | cons first tail induction =>
    have notFirst : first ≠ apostrophe := fun same => absent (same ▸ mem_cons_self)
    have notLater : apostrophe ∉ tail := fun member => absent (mem_cons_of_mem first member)
    cases text with
    | nil => exact absurd (cons_prefix_cons.mp occurs).1 notFirst
    | cons char rest =>
      rw [flatMap_cons, escapeApostrophe] at occurs
      split at occurs
      next => exact absurd (cons_prefix_cons.mp occurs).1 notFirst
      next =>
        obtain ⟨same, later⟩ := cons_prefix_cons.mp occurs
        rw [same, cons_prefix_cons]
        exact ⟨rfl, induction notLater later⟩

theorem infix_of_infix_singleQuoted (nonempty : pattern ≠ []) (absent : apostrophe ∉ pattern)
    (noBackslash : '\\' ∉ pattern) (occurs : pattern <:+: singleQuoted text) :
    pattern <:+: text := by
  have skip : ∀ {char : Char} {rest : List Char}, char ∉ pattern →
      pattern <:+: char :: rest → pattern <:+: rest := by
    intro char rest other inside
    refine (infix_cons_iff.mp inside).resolve_left ?_
    intro front
    cases pattern with
    | nil => exact nonempty rfl
    | cons first tail =>
      exact other ((cons_prefix_cons.mp front).1 ▸ mem_cons_self)
  replace occurs := skip absent occurs
  induction text with
  | nil => exact absurd (infix_nil.mp (skip absent occurs)) nonempty
  | cons char rest induction =>
    rw [infix_cons_iff]
    rcases Classical.em (char = apostrophe) with rfl | other
    · right
      exact induction (skip absent (skip absent (skip noBackslash (skip absent occurs))))
    · rw [flatMap_cons, escapeApostrophe, if_neg other] at occurs
      rcases infix_cons_iff.mp occurs with front | later
      · left
        apply prefix_of_prefix_escaped absent
        rw [flatMap_cons, escapeApostrophe, if_neg other]
        exact front
      · exact Or.inr (induction later)

namespace Reader

variable {reader : Reader} {contexts : List Context}

theorem inContext_of_plain (plain : reader.Plain) (char : Char) :
    reader.inContext char = reader.split char := by
  obtain ⟨_, outer⟩ := plain
  cases reader with
  | mk pending contexts inWord =>
    cases contexts with
    | nil => rfl
    | cons context contexts =>
      rcases outer with none | same | same
      · cases none
      · cases same; rfl
      · cases same; rfl

theorem step_apostrophe (plain : reader.Plain) : reader.step apostrophe = reader.quote .single := by
  have split : reader.inContext apostrophe = reader.quote .single := inContext_of_plain plain _
  rcases plain.1 with pending | pending
  · rw [step, pending]
    exact split
  · rw [step, pending]
    exact split

theorem read_append (first second : List (Option Char)) : reader.read (first ++ second) =
    (((reader.read first).1.read second).1,
      (reader.read first).2 ++ ((reader.read first).1.read second).2) := by
  induction first generalizing reader with
  | nil => rfl
  | cons symbol rest induction =>
    simp only [cons_append, read, induction, append_assoc]

theorem map_start (reader : Reader) :
    (reader.start.map (Mark.map some) : List (Mark (Option Char))) = reader.start := by
  cases reader with
  | mk pending contexts inWord => cases inWord <;> rfl

section

variable (plain : (word .nothing contexts).Plain)

include plain

theorem step_backslash : (word .nothing contexts).step '\\' = (word .escape contexts, []) :=
  inContext_of_plain plain '\\'

theorem step_escaped :
    (word .escape contexts).step apostrophe = (word .nothing contexts, [.part apostrophe]) := by
  obtain ⟨_, outer⟩ := plain
  cases contexts with
  | nil => rfl
  | cons context contexts =>
    rcases outer with none | same | same
    · cases none
    · cases same; rfl
    · cases same; rfl

theorem read_escapeApostrophe (char : Char) :
    (word .nothing (.single :: contexts)).read ((escapeApostrophe char).map some) =
      (word .nothing (.single :: contexts), [.part (some char)]) := by
  rw [escapeApostrophe]
  split
  next same =>
    have closes : (word .nothing (.single :: contexts)).step apostrophe =
        (word .nothing contexts, []) := rfl
    simp only [map_cons, read, symbol, closes, step_backslash plain,
      step_escaped plain, step_apostrophe plain]
    rw [same]
    rfl
  next other =>
    have inside : (word .nothing (.single :: contexts)).step char =
        (word .nothing (.single :: contexts), [.part char]) := if_neg other
    simp only [map_cons, read, symbol, inside]
    rfl

theorem read_escaped (text : List Char) : (word .nothing (.single :: contexts)).read
      ((text.flatMap escapeApostrophe ++ [apostrophe]).map some) =
    (word .nothing contexts, text.map fun char => .part (some char)) := by
  induction text with
  | nil => rfl
  | cons char rest induction =>
    rw [flatMap_cons, append_assoc, map_append, read_append,
      read_escapeApostrophe plain, induction]
    rfl

end

theorem read_singleQuoted (plain : reader.Plain) (text : List Char) :
    reader.read ((singleQuoted text).map some) =
      (word .nothing reader.contexts, reader.start ++ text.map fun char => .part (some char)) := by
  have inWord : (word .nothing reader.contexts).Plain := ⟨Or.inl rfl, plain.2⟩
  rw [singleQuoted, map_cons, read, symbol, step_apostrophe plain]
  change (((word .nothing (.single :: reader.contexts)).read _).1, _ ++
    ((word .nothing (.single :: reader.contexts)).read _).2) = _
  rw [read_escaped inWord]
  change (_, reader.start.map (Mark.map some) ++ _) = _
  rw [map_start]

end Reader

section

variable (text : List Char)

def Mark.fill : Mark (Option Char) → List (Mark (Option Char))
  | .part none => text.map fun char => .part (some char)
  | mark => [mark]

def Token.fill : Token → Token
  | .word symbols => .word ((insertPiece text symbols).map some)
  | .operator char => .operator char

theorem flatMap_fill_map_some (marks : List (Mark Char)) :
    (marks.map (Mark.map some)).flatMap (Mark.fill text) = marks.map (Mark.map some) := by
  induction marks with
  | nil => rfl
  | cons mark rest induction =>
    rw [map_cons, flatMap_cons, induction]
    cases mark <;> rfl

theorem flatMap_fill_start (reader : Reader) :
    reader.start.flatMap (Mark.fill text) = reader.start := by
  cases reader with
  | mk pending contexts inWord => cases inWord <;> rfl

theorem flatMap_fill_finish (reader : Reader) :
    reader.finish.flatMap (Mark.fill text) = reader.finish := by
  cases reader with
  | mk pending contexts inWord => cases inWord <;> rfl

theorem read_insertPiece {reader : Reader} (outside : reader.OutsideQuotes line) :
    reader.read ((insertPiece (singleQuoted text) line).map some) =
      ((reader.read line).1, (reader.read line).2.flatMap (Mark.fill text)) := by
  induction line generalizing reader with
  | nil => rfl
  | cons symbol rest induction =>
    have later := induction outside.2
    cases symbol with
    | some char =>
      change reader.read (some char :: (insertPiece (singleQuoted text) rest).map some) = _
      rw [Reader.read, later, Reader.read, flatMap_append]
      congr 2
      exact (flatMap_fill_map_some text _).symm
    | none =>
      change reader.read ((singleQuoted text ++ insertPiece (singleQuoted text) rest).map some) = _
      rw [map_append, Reader.read_append, Reader.read_singleQuoted (outside.1 rfl)]
      rw [Reader.read]
      change (((reader.symbol none).1.read _).1, _ ++ ((reader.symbol none).1.read _).2) = _
      rw [later, flatMap_append]
      congr 2
      change _ = (reader.start ++ [Mark.part none]).flatMap (Mark.fill text)
      rw [flatMap_append, flatMap_fill_start]
      exact congrArg (reader.start ++ ·) (append_nil _).symm

theorem gather_parts (word : List (Option Char)) (rest : List (Mark (Option Char))) :
    gather word ((text.map fun char => .part (some char)) ++ rest) =
      gather (word ++ text.map some) rest := by
  induction text generalizing word with
  | nil => rw [map_nil, map_nil, nil_append, append_nil]
  | cons char text induction =>
    rw [map_cons, cons_append, gather, induction, append_assoc]
    rfl

theorem gather_fill (word : List (Option Char)) (marks : List (Mark (Option Char))) :
    gather ((insertPiece text word).map some) (marks.flatMap (Mark.fill text)) =
      (gather word marks).map (Token.fill text) := by
  induction marks generalizing word with
  | nil => rfl
  | cons mark rest induction =>
    cases mark with
    | start => exact induction []
    | finish => exact congrArg _ (induction [])
    | operator char => exact congrArg _ (induction word)
    | part symbol =>
      rw [gather, ← induction, insertPiece_append, map_append]
      cases symbol with
      | some char => rfl
      | none =>
        change gather _ ((text.map fun char => .part (some char)) ++ _) = _
        rw [gather_parts]
        congr 3
        exact (append_nil text).symm

theorem shellTokens_insertPiece (outside : (Reader.gap .nothing []).OutsideQuotes line) :
    shellTokens ((insertPiece (singleQuoted text) line).map some) =
      (shellTokens line).map fun tokens => tokens.map (Token.fill text) := by
  rw [shellTokens, shellTokens, read_insertPiece text outside]
  split
  next complete =>
    rw [Option.map_some, ← gather_fill, flatMap_append, flatMap_fill_finish]
    rfl
  next => rfl

end

end ShadowPanel.Data
