import Mathlib.Data.List.DropRight
import ShadowPanel.Data.Texts

namespace ShadowPanel.Data

open List

/-! Slash-separated paths: as lists of names, as texts, and what the lexical
functions on texts make of them. -/

def IsName (text : List Char) : Prop := text ≠ [] ∧ '/' ∉ text ∧ text ≠ ['.'] ∧ text ≠ ['.', '.']

instance IsName.decidable (text : List Char) : Decidable (IsName text) := by
  unfold IsName
  infer_instance

@[ext]
structure Name where
  text : List Char
  isName : IsName text
  deriving DecidableEq

/-- A path below some root, the innermost name first; the root itself is empty. -/
abbrev Path := List Name

def dirText : Path → List Char
  | [] => []
  | name :: parent => dirText parent ++ (name.text ++ ['/'])

def pathText : Path → List Char
  | [] => []
  | name :: parent => dirText parent ++ name.text

theorem Name.slash_free (name : Name) : '/' ∉ name.text := name.isName.2.1

theorem dirText_cons (name : Name) (parent : Path) :
    dirText (name :: parent) = pathText (name :: parent) ++ ['/'] :=
  (append_assoc _ _ _).symm

theorem dirText_append_injective (free : '/' ∉ back) (otherFree : '/' ∉ otherBack)
    (same : dirText first ++ back = dirText second ++ otherBack) :
    first = second ∧ back = otherBack := by
  induction first generalizing second back otherBack with
  | nil =>
    cases second with
    | nil => exact ⟨rfl, same⟩
    | cons name parent =>
      have inside : '/' ∈ back := by
        rw [show back = _ from same]
        simp [dirText]
      exact absurd inside free
  | cons name parent ih =>
    cases second with
    | nil =>
      have inside : '/' ∈ otherBack := by
        rw [show otherBack = _ from same.symm]
        simp [dirText]
      exact absurd inside otherFree
    | cons other otherParent =>
      have split : (dirText parent ++ name.text) ++ '/' :: back =
          (dirText otherParent ++ other.text) ++ '/' :: otherBack := by
        simpa [dirText] using same
      obtain ⟨fronts, backs⟩ := splitLast_injective free otherFree split
      obtain ⟨parents, names⟩ := ih name.slash_free other.slash_free fronts
      exact ⟨by rw [parents, Name.ext names], backs⟩

theorem pathText_injective (nonempty : first ≠ []) (other : second ≠ [])
    (same : pathText first = pathText second) : first = second := by
  obtain ⟨name, parent, rfl⟩ := exists_cons_of_ne_nil nonempty
  obtain ⟨otherName, otherParent, rfl⟩ := exists_cons_of_ne_nil other
  obtain ⟨parents, names⟩ :=
    dirText_append_injective name.slash_free otherName.slash_free same
  rw [parents, Name.ext names]

def Below (dir : Path) (start : List Char) : Path → Prop
  | [] => False
  | name :: parent => parent = dir ∧ start <+: name.text ∨ Below dir start parent

instance Below.decidable (dir : Path) (start : List Char) :
    (path : Path) → Decidable (Below dir start path)
  | [] => .isFalse id
  | _ :: parent =>
    have := Below.decidable dir start parent
    instDecidableOr

theorem below_iff : Below dir start path ↔
    ∃ rest, ∃ name : Name, path = rest ++ name :: dir ∧ start <+: name.text := by
  induction path with
  | nil =>
    refine ⟨False.elim, ?_⟩
    rintro ⟨rest, name, split, -⟩
    simp at split
  | cons name parent ih =>
    constructor
    · rintro (⟨rfl, starts⟩ | inner)
      · exact ⟨[], name, rfl, starts⟩
      · obtain ⟨rest, entry, rfl, starts⟩ := ih.mp inner
        exact ⟨name :: rest, entry, rfl, starts⟩
    · rintro ⟨rest, entry, split, starts⟩
      cases rest with
      | nil =>
        obtain ⟨rfl, rfl⟩ := cons.inj split
        exact .inl ⟨rfl, starts⟩
      | cons first rest =>
        obtain ⟨-, rfl⟩ := cons.inj split
        exact .inr (ih.mpr ⟨rest, entry, rfl, starts⟩)

theorem prefix_append_cases {α : Type*} {start front back : List α}
    (starts : start <+: front ++ back) :
    start <+: front ∨ ∃ inner, start = front ++ inner ∧ inner <+: back := by
  obtain inFront | ⟨inner, rfl⟩ :=
    prefix_or_prefix_of_prefix starts (prefix_append front back)
  · exact .inl inFront
  · exact .inr ⟨inner, rfl, (prefix_append_right_inj front).mp starts⟩

theorem prefix_pathText_iff {text : List Char} (nonempty : path ≠ []) : text <+: pathText path ↔
    ∃ dir start, '/' ∉ start ∧ text = dirText dir ++ start ∧ Below dir start path := by
  induction path with
  | nil => exact absurd rfl nonempty
  | cons name parent ih =>
    constructor
    · intro starts
      obtain inFront | ⟨start, rfl, inName⟩ := prefix_append_cases starts
      · cases parent with
        | nil =>
          refine ⟨[], [], not_mem_nil, prefix_nil.mp inFront, ?_⟩
          exact .inl ⟨rfl, nil_prefix⟩
        | cons entry outer =>
          rw [dirText_cons] at inFront
          obtain inFront | ⟨start, rfl, slash⟩ := prefix_append_cases inFront
          · obtain ⟨dir, start, free, split, below⟩ :=
              (ih (cons_ne_nil _ _)).mp inFront
            exact ⟨dir, start, free, split, .inr below⟩
          · cases start with
            | nil =>
              obtain ⟨dir, start, free, split, below⟩ :=
                (ih (cons_ne_nil _ _)).mp (by simp)
              exact ⟨dir, start, free, split, .inr below⟩
            | cons first rest =>
              obtain ⟨rfl, nothing⟩ := cons_prefix_cons.mp slash
              rw [prefix_nil.mp nothing, ← dirText_cons]
              refine ⟨entry :: outer, [], not_mem_nil, by simp, ?_⟩
              exact .inl ⟨rfl, nil_prefix⟩
      · refine ⟨parent, start, ?_, rfl, .inl ⟨rfl, inName⟩⟩
        intro inside
        exact name.slash_free (inName.subset inside)
    · rintro ⟨dir, start, free, rfl, ⟨rfl, inName⟩ | below⟩
      · exact (prefix_append_right_inj _).mpr inName
      · cases parent with
        | nil => exact below.elim
        | cons entry outer =>
          have inner := (ih (cons_ne_nil _ _)).mpr ⟨dir, start, free, rfl, below⟩
          refine inner.trans ?_
          show pathText (entry :: outer) <+: dirText (entry :: outer) ++ name.text
          rw [dirText_cons, append_assoc]
          exact prefix_append _ _

theorem Below.mono (below : Below dir longer path) (starts : start <+: longer) :
    Below dir start path := by
  obtain ⟨rest, name, rfl, inName⟩ := below_iff.mp below
  exact below_iff.mpr ⟨rest, name, rfl, starts.trans inName⟩

theorem dirText_append_prefix_iff (dir : Path) {start : List Char} {path : Path}
    (free : '/' ∉ start) (nonempty : path ≠ []) :
    dirText dir ++ start <+: pathText path ↔ Below dir start path := by
  rw [prefix_pathText_iff nonempty]
  constructor
  · rintro ⟨other, otherStart, otherFree, split, below⟩
    obtain ⟨rfl, rfl⟩ := dirText_append_injective free otherFree split
    exact below
  · intro below
    exact ⟨dir, start, free, rfl, below⟩

/-- What is left of a text once `.` and `..` are worked out: whether it starts at
the root, how often it leaves where it starts, and the names after that. -/
structure Lexical where
  rooted : Bool
  ups : Nat
  names : Path

namespace Lexical

def push (form : Lexical) (segment : List Char) : Lexical :=
  if isName : IsName segment then { form with names := ⟨segment, isName⟩ :: form.names }
  else if segment = ['.', '.'] then
    match form.names with
    | _ :: parent => { form with names := parent }
    | [] => if form.rooted then form else { form with ups := form.ups + 1 }
  else form

/-- `filepath.Clean`. -/
def clean (text : List Char) : Lexical :=
  (text.splitOn '/').foldl push ⟨text.head? == some '/', 0, []⟩

/-- `filepath.Dir`: what stands before the last slash. -/
def dir (text : List Char) : Lexical := clean (text.rdropWhile (· ≠ '/'))

/-- The path below the root that the form names, unless it leaves the root. -/
def within (form : Lexical) : Option Path :=
  if form.rooted || form.ups ≠ 0 then none else some form.names

end Lexical

/-- `filepath.Base`: the last name, without the slashes after it. -/
def base (text : List Char) : List Char :=
  if text = [] then ['.']
  else
    let last := (text.rdropWhile (· = '/')).rtakeWhile (· ≠ '/')
    if last = [] then ['/'] else last

section

variable (path : Path)

theorem splitOn_dirText (back : List Char) :
    (dirText path ++ back).splitOn '/' = path.reverse.map Name.text ++ back.splitOn '/' := by
  induction path generalizing back with
  | nil => rfl
  | cons name parent ih =>
    have first : (name.text ++ '/' :: back).splitOn '/' = name.text :: back.splitOn '/' := by
      apply splitOnP_append_cons_of_forall_mem
      · intro char inside
        refine beq_eq_false_iff_ne.mpr fun slash => name.slash_free ?_
        exact slash ▸ inside
      · exact beq_self_eq_true '/'
    have joined : dirText (name :: parent) ++ back =
        dirText parent ++ (name.text ++ '/' :: back) := by simp [dirText]
    rw [joined, ih, first]
    simp

theorem Lexical.foldl_push_names (form : Lexical) :
    (path.reverse.map Name.text).foldl push form = { form with names := path ++ form.names } := by
  induction path generalizing form with
  | nil => rfl
  | cons name parent ih =>
    rw [reverse_cons, map_append, foldl_append, ih]
    exact dif_pos name.isName

theorem head?_dirText_append (back : List Char) (other : back.head? ≠ some '/') :
    (dirText path ++ back).head? ≠ some '/' := by
  induction path generalizing back with
  | nil => exact other
  | cons name parent ih =>
    rw [dirText, append_assoc]
    apply ih
    obtain ⟨first, rest, chars⟩ := exists_cons_of_ne_nil name.isName.1
    rw [chars]
    intro slash
    apply name.slash_free
    rw [chars, show first = '/' from Option.some.inj slash]
    exact mem_cons_self

@[simp] theorem Lexical.clean_dirText : clean (dirText path) = ⟨false, 0, path⟩ := by
  have split := splitOn_dirText path []
  have relative : (dirText path).head? ≠ some '/' := by
    simpa using head?_dirText_append path [] (by simp)
  rw [append_nil] at split
  rw [clean, split, foldl_append, foldl_push_names]
  simp [push, IsName, beq_eq_false_iff_ne.mpr relative]

theorem rdropWhile_dirText_append (free : '/' ∉ back) :
    (dirText path ++ back).rdropWhile (· ≠ '/') = dirText path := by
  have dropped : ∀ char ∈ back.reverse, decide (char ≠ '/') = true := by
    intro char inside
    refine decide_eq_true fun slash => free ?_
    exact slash ▸ mem_reverse.mp inside
  rw [rdropWhile, reverse_append, dropWhile_append_of_pos dropped]
  cases path with
  | nil => rfl
  | cons name parent => simp [dirText]

theorem Lexical.within_dir {start : List Char} (free : '/' ∉ start) :
    (dir (dirText path ++ start)).within = some path := by
  rw [dir, rdropWhile_dirText_append path free, clean_dirText]
  rfl

theorem rtakeWhile_dirText_append (free : '/' ∉ back) :
    (dirText path ++ back).rtakeWhile (· ≠ '/') = back := by
  have taken : ∀ char ∈ back.reverse, decide (char ≠ '/') = true := by
    intro char inside
    refine decide_eq_true fun slash => free ?_
    exact slash ▸ mem_reverse.mp inside
  rw [rtakeWhile, reverse_append, takeWhile_append_of_pos taken]
  cases path with
  | nil | cons name parent => simp [dirText]

theorem base_dirText_append (nonempty : start ≠ []) (free : '/' ∉ start) :
    base (dirText path ++ start) = start := by
  have last : start.getLast nonempty ≠ '/' :=
    fun slash => free (slash ▸ getLast_mem nonempty)
  have kept : (dirText path ++ start).rdropWhile (· = '/') = dirText path ++ start := by
    rw [rdropWhile_eq_self_iff]
    intro whole
    simpa [getLast_append_of_ne_nil _ nonempty] using last
  unfold base
  rw [if_neg (by simp [nonempty]), kept, rtakeWhile_dirText_append path free]
  exact if_neg nonempty

end

@[simp] theorem base_dirText_cons (name : Name) (parent : Path) :
    base (dirText (name :: parent)) = name.text := by
  have inner := base_dirText_append parent name.isName.1 name.slash_free
  have dropped : (dirText (name :: parent)).rdropWhile (· = '/') =
      (dirText parent ++ name.text).rdropWhile (· = '/') := by
    rw [dirText_cons]
    exact rdropWhile_concat_pos _ _ _ (by simp)
  unfold base at inner ⊢
  rw [if_neg (by simp [name.isName.1])] at inner
  rw [if_neg (by simp [dirText]), dropped]
  exact inner

end ShadowPanel.Data
