import ShadowPanel.Data.Texts

namespace ShadowPanel.Data

open List

universe u

/-! Placeholders between double braces, and the pass over a text that puts a name in single
braces in the place of each one that has a value. -/

structure Braces (α : Type u) where
  opening : α
  closing : α
  apart : opening ≠ closing

namespace Braces

variable {α : Type u} [DecidableEq α] (braces : Braces α)

def isPlain (char : α) : Bool := char != braces.opening && char != braces.closing

def Plain (text : List α) : Prop := ∀ char ∈ text, braces.isPlain char = true

def single (name : List α) : List α := braces.opening :: (name ++ [braces.closing])

def double (body : List α) : List α :=
  braces.opening :: braces.opening :: (body ++ [braces.closing, braces.closing])

def body? (text : List α) : Option (List α) :=
  let body := (text.drop 2).takeWhile braces.isPlain
  if braces.double body <+: text then some body else none

def token (value : List α → Option (List α)) (text : List α) : Option (List α × List α) :=
  (braces.body? text).bind fun body => (value body).map fun name => (body, name)

def substituteFrom (value : List α → Option (List α)) : (skip : Nat) → List α → List α
  | _, [] => []
  | skip + 1, _ :: rest => substituteFrom value skip rest
  | 0, char :: rest =>
    match braces.token value (char :: rest) with
    | some (body, name) => braces.single name ++ substituteFrom value (body.length + 3) rest
    | none => char :: substituteFrom value 0 rest

def substitute (value : List α → Option (List α)) (text : List α) : List α :=
  braces.substituteFrom value 0 text

def weightFrom (value : List α → Option (List α)) (size : α → Nat) : (skip : Nat) → List α → Nat
  | _, [] => 0
  | skip + 1, _ :: rest => weightFrom value size skip rest
  | 0, char :: rest =>
    match braces.token value (char :: rest) with
    | some (body, name) =>
      total size (braces.single name) + weightFrom value size (body.length + 3) rest
    | none => size char + weightFrom value size 0 rest

def weight (value : List α → Option (List α)) (size : α → Nat) (text : List α) : Nat :=
  braces.weightFrom value size 0 text

variable {braces} {value : List α → Option (List α)}

theorem weightFrom_eq (size : α → Nat) (skip : Nat) (text : List α) :
    braces.weightFrom value size skip text =
      total size (braces.substituteFrom value skip text) := by
  induction text generalizing skip with
  | nil =>
    cases skip with
    | zero => rfl
    | succ skip => rfl
  | cons char rest ih =>
    cases skip with
    | succ skip => exact ih skip
    | zero =>
      rw [weightFrom, substituteFrom]
      cases braces.token value (char :: rest) with
      | none => exact congrArg (size char + ·) (ih 0)
      | some found =>
        simp only [total_append, ih]

@[simp] theorem not_plain_opening : braces.isPlain braces.opening = false := by
  simp [isPlain]

@[simp] theorem not_plain_closing : braces.isPlain braces.closing = false := by
  simp [isPlain]

theorem ne_opening_of_plain (plain : braces.isPlain char = true) : char ≠ braces.opening := by
  intro same
  simp [same] at plain

theorem takeWhile_plain (plain : braces.Plain body) (rest : List α) :
    (body ++ braces.closing :: rest).takeWhile braces.isPlain = body := by
  rw [takeWhile_append_of_pos plain, takeWhile_cons_of_neg, append_nil]
  simp

omit [DecidableEq α] in
theorem double_append (body rest : List α) :
    braces.double body ++ rest = braces.opening :: braces.opening ::
      (body ++ braces.closing :: braces.closing :: rest) := by
  simp [double]

theorem body?_double (plain : braces.Plain body) (rest : List α) :
    braces.body? (braces.double body ++ rest) = some body := by
  have taken : ((braces.double body ++ rest).drop 2).takeWhile braces.isPlain = body := by
    rw [double_append]
    exact takeWhile_plain plain _
  rw [body?, taken]
  exact if_pos ⟨rest, rfl⟩

theorem eq_of_body? (found : braces.body? text = some body) :
    braces.Plain body ∧ ∃ rest, text = braces.double body ++ rest := by
  unfold body? at found
  dsimp only at found
  split at found
  next starts =>
    cases found
    obtain ⟨rest, same⟩ := starts
    exact ⟨fun char member => all_eq_true.mp all_takeWhile char member, rest, same.symm⟩
  next => cases found

theorem token_eq_some_iff : braces.token value text = some (body, name) ↔
    value body = some name ∧ braces.Plain body ∧ ∃ rest, text = braces.double body ++ rest := by
  constructor
  · intro found
    obtain ⟨isBody, start, named⟩ := Option.bind_eq_some_iff.mp found
    obtain ⟨isName, hasValue, same⟩ := Option.map_eq_some_iff.mp named
    cases same
    exact ⟨hasValue, eq_of_body? start⟩
  · intro ⟨hasValue, plain, rest, same⟩
    rw [token, same, body?_double plain, Option.bind_some, hasValue]
    rfl

theorem token_eq_none_iff : braces.token value text = none ↔
    ∀ body rest, braces.Plain body → text = braces.double body ++ rest → value body = none := by
  constructor
  · intro missing body rest plain same
    cases hasValue : value body with
    | none => rfl
    | some name =>
      rw [token_eq_some_iff.mpr ⟨hasValue, plain, rest, same⟩] at missing
      cases missing
  · intro all
    cases found : braces.token value text with
    | none => rfl
    | some pair =>
      obtain ⟨hasValue, plain, rest, same⟩ := token_eq_some_iff.mp found
      rw [all _ rest plain same] at hasValue
      cases hasValue

theorem token_of_ne (other : char ≠ braces.opening) (rest : List α) :
    braces.token value (char :: rest) = none := by
  cases found : braces.token value (char :: rest) with
  | none => rfl
  | some pair =>
    obtain ⟨_, _, _, same⟩ := token_eq_some_iff.mp found
    exact absurd (cons.inj same).1 other

theorem token_of_second (other : second ≠ braces.opening) (first : α) (rest : List α) :
    braces.token value (first :: second :: rest) = none := by
  cases found : braces.token value (first :: second :: rest) with
  | none => rfl
  | some pair =>
    obtain ⟨_, _, _, same⟩ := token_eq_some_iff.mp found
    exact absurd (cons.inj (cons.inj same).2).1 other

theorem substituteFrom_eq_drop (skip : Nat) (text : List α) :
    braces.substituteFrom value skip text = braces.substitute value (text.drop skip) := by
  induction skip generalizing text with
  | zero => rfl
  | succ skip ih =>
    cases text with
    | nil => rfl
    | cons char rest => exact ih rest

theorem substitute_cons (missing : braces.token value (char :: rest) = none) :
    braces.substitute value (char :: rest) = char :: braces.substitute value rest := by
  rw [substitute, substituteFrom, missing]
  rfl

theorem substitute_double (plain : braces.Plain body) (hasValue : value body = some name)
    (rest : List α) :
    braces.substitute value (braces.double body ++ rest) =
      braces.single name ++ braces.substitute value rest := by
  have found : braces.token value (braces.double body ++ rest) = some (body, name) :=
    token_eq_some_iff.mpr ⟨hasValue, plain, rest, rfl⟩
  rw [double_append] at found ⊢
  rw [substitute, substituteFrom, found]
  dsimp only
  rw [substituteFrom_eq_drop, ← singleton_append, ← append_assoc]
  have passed : (([braces.opening] ++ body) ++ braces.closing :: braces.closing :: rest).drop
      (body.length + 3) = rest := by
    simp
  rw [passed]

theorem substitute_induction (braces : Braces α) (value : List α → Option (List α))
    {motive : List α → Prop} (nil : motive [])
    (char : ∀ char rest, braces.token value (char :: rest) = none → motive rest →
      motive (char :: rest))
    (placeholder : ∀ body name rest, braces.Plain body → value body = some name → motive rest →
      motive (braces.double body ++ rest)) (text : List α) : motive text := by
  induction size : text.length using Nat.strongRecOn generalizing text with
  | ind length ih =>
    cases text with
    | nil => exact nil
    | cons first rest =>
      cases found : braces.token value (first :: rest) with
      | none =>
        have shorter : rest.length < length := by
          rw [← size]
          exact Nat.lt_succ_self _
        exact char first rest found (ih _ shorter rest rfl)
      | some pair =>
        obtain ⟨hasValue, plain, later, same⟩ := token_eq_some_iff.mp found
        have shorter : later.length < length := by
          have lengths := congrArg List.length same
          rw [double_append] at lengths
          simp only [length_cons, length_append] at lengths size
          omega
        rw [same]
        exact placeholder _ _ later plain hasValue (ih _ shorter later rfl)

theorem substitute_plain (plain : braces.Plain text) (rest : List α) :
    braces.substitute value (text ++ rest) = text ++ braces.substitute value rest := by
  induction text with
  | nil => rfl
  | cons char later ih =>
    obtain ⟨first, others⟩ := forall_mem_cons.mp plain
    have other := ne_opening_of_plain first
    rw [cons_append, substitute_cons (token_of_ne other _), ih others]
    rfl

theorem substitute_closing (rest : List α) : braces.substitute value (braces.closing :: rest) =
    braces.closing :: braces.substitute value rest :=
  substitute_cons (token_of_ne braces.apart.symm rest)

theorem eq_cons_of_substitute (written : braces.substitute value text = char :: out)
    (other : char ≠ braces.opening) :
    ∃ rest, text = char :: rest ∧ braces.substitute value rest = out := by
  cases text with
  | nil => cases written
  | cons first rest =>
    cases found : braces.token value (first :: rest) with
    | none =>
      rw [substitute_cons found] at written
      obtain ⟨same, later⟩ := cons.inj written
      exact ⟨rest, same ▸ rfl, later⟩
    | some pair =>
      obtain ⟨hasValue, plain, later, same⟩ := token_eq_some_iff.mp found
      rw [same, substitute_double plain hasValue] at written
      exact absurd (cons.inj written).1.symm other

theorem eq_append_of_substitute (plain : braces.Plain body)
    (written : braces.substitute value text = body ++ braces.closing :: braces.closing :: out) :
    ∃ rest, text = body ++ braces.closing :: braces.closing :: rest := by
  induction body generalizing text with
  | nil =>
    obtain ⟨later, first, writtenLater⟩ := eq_cons_of_substitute written braces.apart.symm
    obtain ⟨rest, second, _⟩ := eq_cons_of_substitute writtenLater braces.apart.symm
    exact ⟨rest, by rw [first, second]; rfl⟩
  | cons char body ih =>
    obtain ⟨first, others⟩ := forall_mem_cons.mp plain
    have other := ne_opening_of_plain first
    obtain ⟨later, same, writtenLater⟩ := eq_cons_of_substitute written other
    obtain ⟨rest, sameLater⟩ := ih others writtenLater
    exact ⟨rest, by rw [same, sameLater]; rfl⟩

theorem substitute_opening (plain : braces.Plain name) (rest : List α) :
    braces.substitute value (braces.opening :: (name ++ braces.closing :: rest)) =
      braces.opening :: (name ++ braces.closing :: braces.substitute value rest) := by
  have missing :
      braces.token value (braces.opening :: (name ++ braces.closing :: rest)) = none := by
    cases name with
    | nil => exact token_of_second braces.apart.symm _ _
    | cons first later =>
      exact token_of_second (ne_opening_of_plain (plain first mem_cons_self)) _ _
  rw [substitute_cons missing, substitute_plain plain, substitute_closing]

theorem substitute_single (plain : braces.Plain name) (rest : List α) :
    braces.substitute value (braces.single name ++ rest) =
      braces.single name ++ braces.substitute value rest := by
  have spelled (rest : List α) : braces.single name ++ rest =
      braces.opening :: (name ++ braces.closing :: rest) := by simp [single]
  rw [spelled, spelled, substitute_opening plain]

theorem substitute_double_of_none (plain : braces.Plain body) (unknown : value body = none)
    (rest : List α) :
    braces.substitute value (braces.double body ++ rest) =
      braces.double body ++ braces.substitute value rest := by
  have missing : braces.token value (braces.double body ++ rest) = none := by
    rw [token, body?_double plain, Option.bind_some, unknown]
    rfl
  rw [double_append] at missing ⊢
  rw [substitute_cons missing, substitute_opening plain, substitute_closing, double_append]

structure Separate (braces : Braces α) (first second : List α → Option (List α)) : Prop where
  plain : ∀ body name, first body = some name → braces.Plain name
  fresh : ∀ body name, first body = some name → second name = none

def either (first second : List α → Option (List α)) (body : List α) : Option (List α) :=
  (first body).or (second body)

theorem token_substitute (separate : Separate braces first second)
    (missing : braces.token (either first second) (char :: rest) = none) :
    braces.token second (char :: braces.substitute first rest) = none := by
  refine token_eq_none_iff.mpr fun body later plain same => ?_
  rw [double_append] at same
  obtain ⟨isOpening, written⟩ := cons.inj same
  cases rest with
  | nil => cases written
  | cons next others =>
    cases found : braces.token first (next :: others) with
    | none =>
      rw [substitute_cons found] at written
      obtain ⟨nextOpening, writtenLater⟩ := cons.inj written
      obtain ⟨after, isBody⟩ := eq_append_of_substitute plain writtenLater
      have unknown := token_eq_none_iff.mp missing body after plain (by
        rw [isOpening, nextOpening, isBody, double_append])
      exact (Option.or_eq_none_iff.mp unknown).2
    | some pair =>
      obtain ⟨hasValue, plainBody, after, isDouble⟩ := token_eq_some_iff.mp found
      rw [isDouble, substitute_double plainBody hasValue] at written
      have plainName := separate.plain _ _ hasValue
      have spelled : pair.2 ++ braces.closing :: braces.substitute first after =
          body ++ braces.closing :: braces.closing :: later := by
        simpa [single] using written
      have isName : pair.2 = body := by
        rw [← takeWhile_plain plainName (braces.substitute first after), spelled,
          takeWhile_plain plain]
      rw [← isName]
      exact separate.fresh _ _ hasValue

theorem substitute_substitute (separate : Separate braces first second) (text : List α) :
    braces.substitute second (braces.substitute first text) =
      braces.substitute (either first second) text := by
  induction text using substitute_induction braces (either first second) with
  | nil => rfl
  | char char rest missing ih =>
    have missingFirst : braces.token first (char :: rest) = none :=
      token_eq_none_iff.mpr fun body later plain same =>
        (Option.or_eq_none_iff.mp (token_eq_none_iff.mp missing body later plain same)).1
    rw [substitute_cons missingFirst, substitute_cons (token_substitute separate missing),
      substitute_cons missing, ih]
  | placeholder body name rest plain hasValue ih =>
    rw [substitute_double plain hasValue]
    cases known : first body with
    | some firstName =>
      have same : firstName = name := by
        rw [either, known] at hasValue
        exact Option.some.inj hasValue
      rw [substitute_double plain known, substitute_single (separate.plain _ _ known), ih, same]
    | none =>
      rw [either, known] at hasValue
      rw [substitute_double_of_none plain known, substitute_double plain hasValue, ih]

structure Outside (braces : Braces α) (value : List α → Option (List α)) (chars : α → Prop) :
    Prop where
  opening : ¬chars braces.opening
  closing : ¬chars braces.closing
  body : ∀ body name, value body = some name → ∀ char ∈ body, ¬chars char
  name : ∀ body name, value body = some name → ∀ char ∈ name, ¬chars char

section

variable {chars : α → Prop} (outside : Outside braces value chars)

include outside

omit [DecidableEq α] in
theorem Outside.single {body name : List α} (hasValue : value body = some name) :
    ∀ char ∈ braces.single name, ¬chars char := by
  intro char member
  rw [Braces.single, mem_cons, mem_append, mem_singleton] at member
  rcases member with rfl | inName | rfl
  · exact outside.opening
  · exact outside.name body name hasValue char inName
  · exact outside.closing

omit [DecidableEq α] in
theorem Outside.double {body name : List α} (hasValue : value body = some name) :
    ∀ char ∈ braces.double body, ¬chars char := by
  intro char member
  simp only [Braces.double, mem_cons, mem_append, not_mem_nil, or_false] at member
  rcases member with rfl | rfl | inBody | rfl | rfl
  · exact outside.opening
  · exact outside.opening
  · exact outside.body body name hasValue char inBody
  · exact outside.closing
  · exact outside.closing

theorem count_substitute (isOutside : chars char) (text : List α) :
    (braces.substitute value text).count char = text.count char := by
  induction text using substitute_induction braces value with
  | nil => rfl
  | char first rest missing ih =>
    rw [substitute_cons missing, count_cons, count_cons, ih]
  | placeholder body name rest plain hasValue ih =>
    have inSingle : (braces.single name).count char = 0 :=
      count_eq_zero.mpr fun member => outside.single hasValue char member isOutside
    have inDouble : (braces.double body).count char = 0 :=
      count_eq_zero.mpr fun member => outside.double hasValue char member isOutside
    rw [substitute_double plain hasValue, count_append, count_append, inSingle,
      inDouble, ih]

variable (value) in
omit outside in
theorem prefix_substitute_iff (plain : ∀ char ∈ pattern, char ≠ braces.opening) (text : List α) :
    pattern <+: braces.substitute value text ↔ pattern <+: text := by
  induction pattern generalizing text with
  | nil => simp
  | cons char pattern ih =>
    obtain ⟨first, others⟩ := forall_mem_cons.mp plain
    constructor
    · intro ⟨out, written⟩
      obtain ⟨rest, same, later⟩ := eq_cons_of_substitute written.symm first
      rw [same, cons_prefix_cons]
      exact ⟨rfl, (ih others rest).mp ⟨out, later.symm⟩⟩
    · intro ⟨out, same⟩
      rw [← same, cons_append, substitute_cons (token_of_ne first _), cons_prefix_cons]
      exact ⟨rfl, (ih others _).mpr (prefix_append _ _)⟩

omit [DecidableEq α] outside in
theorem infix_append_iff (absent : char ∉ front) (rest : List α) :
    char :: pattern <:+: front ++ rest ↔ char :: pattern <:+: rest := by
  induction front with
  | nil => exact Iff.rfl
  | cons first later ih =>
    have other : char ≠ first := fun same => absent (same ▸ mem_cons_self)
    have absentLater : char ∉ later := fun member => absent (mem_cons_of_mem _ member)
    rw [cons_append, infix_cons_iff, cons_prefix_cons, ih absentLater]
    exact ⟨fun either => either.resolve_left fun starts => other starts.1, Or.inr⟩

theorem infix_substitute_iff (all : ∀ each ∈ char :: pattern, chars each) (text : List α) :
    char :: pattern <:+: braces.substitute value text ↔ char :: pattern <:+: text := by
  have first : chars char := all char mem_cons_self
  induction text using substitute_induction braces value with
  | nil => exact Iff.rfl
  | char next rest missing ih =>
    have plain : ∀ each ∈ char :: pattern, each ≠ braces.opening := by
      intro each member same
      exact outside.opening (same ▸ all each member)
    have start := prefix_substitute_iff value plain (next :: rest)
    rw [substitute_cons missing] at start
    rw [substitute_cons missing, infix_cons_iff, infix_cons_iff]
    exact or_congr start ih
  | placeholder body name rest plain hasValue ih =>
    rw [substitute_double plain hasValue,
      infix_append_iff (fun member => outside.single hasValue char member first),
      infix_append_iff (fun member => outside.double hasValue char member first)]
    exact ih

end

end Braces

end ShadowPanel.Data
