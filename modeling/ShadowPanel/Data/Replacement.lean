namespace ShadowPanel.Data

open List

universe u

variable {α : Type u} [DecidableEq α]

/-! Replacing every occurrence of a text, from the left and without overlap. -/

def replaceFrom (pattern value : List α) : (skip : Nat) → List α → List α
  | _, [] => []
  | skip + 1, _ :: rest => replaceFrom pattern value skip rest
  | 0, char :: rest =>
    if pattern <+: char :: rest then value ++ replaceFrom pattern value (pattern.length - 1) rest
    else char :: replaceFrom pattern value 0 rest

def replaceAll (pattern value text : List α) : List α := replaceFrom pattern value 0 text

variable {pattern : List α}

theorem replaceFrom_eq_drop (skip : Nat) (text : List α) :
    replaceFrom pattern value skip text = replaceAll pattern value (text.drop skip) := by
  induction skip generalizing text with
  | zero => rfl
  | succ skip ih =>
    cases text with
    | nil => rfl
    | cons char rest => exact ih rest

theorem replaceAll_of_not (other : ¬pattern <+: char :: rest) :
    replaceAll pattern value (char :: rest) = char :: replaceAll pattern value rest := by
  rw [replaceAll, replaceFrom, if_neg other]
  rfl

theorem replaceAll_append (nonempty : pattern ≠ []) (rest : List α) :
    replaceAll pattern value (pattern ++ rest) = value ++ replaceAll pattern value rest := by
  cases split : pattern with
  | nil => exact absurd split nonempty
  | cons char tail =>
    rw [cons_append, replaceAll, replaceFrom, if_pos ⟨rest, rfl⟩, replaceFrom_eq_drop]
    rw [length_cons, Nat.add_sub_cancel, drop_left]

theorem replaceAll_singleton (char : α) (text : List α) :
    replaceAll [char] value text = text.flatMap fun each =>
      if each = char then value else [each] := by
  induction text with
  | nil => rfl
  | cons first rest ih =>
    rw [flatMap_cons]
    split
    next same =>
      subst same
      rw [← ih]
      exact replaceAll_append (cons_ne_nil first []) rest
    next other =>
      have front : ¬[char] <+: first :: rest := by
        rw [cons_prefix_cons]
        exact fun same => other same.1.symm
      rw [replaceAll_of_not front, ih]
      rfl

theorem replaceAll_eq_self (free : ¬pattern <:+: text) : replaceAll pattern value text = text := by
  induction text with
  | nil => rfl
  | cons char rest ih =>
    rw [infix_cons_iff] at free
    rw [replaceAll_of_not fun front => free (Or.inl front)]
    rw [ih fun later => free (Or.inr later)]

def occursIn (pattern : List α) : List α → Bool
  | [] => pattern.isEmpty
  | char :: rest => pattern.isPrefixOf (char :: rest) || occursIn pattern rest

theorem occursIn_iff : occursIn pattern text = true ↔ pattern <:+: text := by
  induction text with
  | nil => simp [occursIn]
  | cons char rest ih =>
    rw [occursIn, Bool.or_eq_true, ih, infix_cons_iff, isPrefixOf_iff_prefix]

section

def insertPiece (piece : List α) (text : List (Option α)) : List α :=
  text.flatMap fun each => each.elim piece fun char => [char]

omit [DecidableEq α] in
@[simp]
theorem insertPiece_map_some (text : List α) : insertPiece piece (text.map some) = text := by
  induction text with
  | nil => rfl
  | cons char rest ih => exact congrArg (char :: ·) ih

omit [DecidableEq α] in
@[simp] theorem insertPiece_append (first second : List (Option α)) :
    insertPiece piece (first ++ second) = insertPiece piece first ++ insertPiece piece second :=
  flatMap_append

omit [DecidableEq α] in
theorem map_some_prefix_iff (text : List α) :
    pattern.map some <+: text.map some ↔ pattern <+: text := by
  constructor
  · intro marked
    have unmarked := marked.filterMap id
    rw [filterMap_map, filterMap_map] at unmarked
    simpa using unmarked
  · intro occurs
    exact occurs.map some

omit [DecidableEq α] in
theorem infix_of_infix_map_some (marked : pattern.map some <:+: text.map some) :
    pattern <:+: text := by
  have unmarked := marked.filterMap id
  rw [filterMap_map, filterMap_map] at unmarked
  simpa using unmarked

theorem replaceFrom_map_some (skip : Nat) (text : List α) :
    replaceFrom (pattern.map some) (value.map some) skip (text.map some) =
      (replaceFrom pattern value skip text).map some := by
  induction text generalizing skip with
  | nil =>
    cases skip with
    | zero => rfl
    | succ skip => rfl
  | cons char rest ih =>
    cases skip with
    | succ skip => exact ih skip
    | zero =>
      rw [map_cons, replaceFrom, replaceFrom, ← map_cons, length_map]
      simp only [map_some_prefix_iff, ih]
      split
      next => rw [map_append]
      next => rfl

theorem replaceAll_map_some (text : List α) :
    replaceAll (pattern.map some) (value.map some) (text.map some) =
      (replaceAll pattern value text).map some :=
  replaceFrom_map_some 0 text

theorem insertPiece_replaceAll (nonempty : pattern ≠ []) (text : List α) :
    insertPiece value (replaceAll (pattern.map some) [none] (text.map some)) =
      replaceAll pattern value text := by
  have someNonempty : pattern.map some ≠ [] := fun none => nonempty (map_eq_nil_iff.mp none)
  match text with
  | [] => rfl
  | char :: rest =>
    by_cases occurs : pattern <+: char :: rest
    · obtain ⟨later, split⟩ := occurs
      have shorter : later.length < rest.length + 1 := by
        have lengths := congrArg length split
        have positive := length_pos_iff.mpr nonempty
        simp only [length_append, length_cons] at lengths
        omega
      rw [← split, map_append, replaceAll_append someNonempty, replaceAll_append nonempty,
        ← insertPiece_replaceAll nonempty later]
      rfl
    · have front : ¬pattern.map some <+: (char :: rest).map some :=
        fun marked => occurs ((map_some_prefix_iff _).mp marked)
      rw [map_cons] at front ⊢
      rw [replaceAll_of_not front, replaceAll_of_not occurs, ← insertPiece_replaceAll nonempty rest]
      rfl
termination_by text.length

structure Fenced (pattern piece : List α) (fence : α) : Prop where
  absent : fence ∉ pattern
  starts : piece.head? = some fence
  ends : piece.getLast? = some fence
  free : ¬pattern <:+: piece

omit [DecidableEq α] in
theorem prefix_insertPiece_iff (absent : fence ∉ pattern) (starts : piece.head? = some fence)
    (text : List (Option α)) : pattern <+: insertPiece piece text ↔ pattern.map some <+: text := by
  induction text generalizing pattern with
  | nil =>
    cases pattern with
    | nil => exact iff_of_true nil_prefix nil_prefix
    | cons char tail => exact iff_of_false nofun nofun
  | cons each rest ih =>
    cases pattern with
    | nil => exact iff_of_true nil_prefix nil_prefix
    | cons char tail =>
      have notFirst : fence ≠ char := fun same => absent (same ▸ mem_cons_self)
      have notLater : fence ∉ tail := fun member => absent (mem_cons_of_mem char member)
      cases each with
      | some letter =>
        change char :: tail <+: letter :: insertPiece piece rest ↔
          some char :: tail.map some <+: some letter :: rest
        rw [cons_prefix_cons, cons_prefix_cons, ih notLater, Option.some.injEq]
      | none =>
        obtain ⟨inner, rfl⟩ := head?_eq_some_iff.mp starts
        change char :: tail <+: fence :: (inner ++ insertPiece (fence :: inner) rest) ↔
          some char :: tail.map some <+: none :: rest
        rw [cons_prefix_cons, cons_prefix_cons]
        exact iff_of_false (fun same => notFirst same.1.symm) nofun

theorem replaceAll_piece_append (fenced : Fenced pattern piece fence)
    (split : before ++ behind = piece) (rest : List α) :
    replaceAll pattern value (behind ++ rest) = behind ++ replaceAll pattern value rest := by
  induction behind generalizing before with
  | nil => rfl
  | cons char tail ih =>
    have front : ¬pattern <+: (char :: tail) ++ rest := by
      intro occurs
      rcases prefix_or_prefix_of_prefix occurs (prefix_append _ rest) with
        inside | across
      · apply fenced.free
        rw [← split]
        exact inside.isInfix.trans (suffix_append before _).isInfix
      · have last : (char :: tail).getLast? = some fence := by
          rw [← fenced.ends, ← split, getLast?_append, getLast?_cons]
          rfl
        exact fenced.absent (across.subset (mem_of_getLast? last))
    rw [cons_append] at front ⊢
    rw [replaceAll_of_not front, cons_append]
    congr 1
    have later : (before ++ [char]) ++ tail = piece := by
      rw [append_assoc]
      exact split
    exact ih later

theorem replaceAll_insertPiece (nonempty : pattern ≠ []) (fenced : Fenced pattern piece fence)
    (text : List (Option α)) :
    replaceAll pattern value (insertPiece piece text) =
      insertPiece piece (replaceAll (pattern.map some) (value.map some) text) := by
  have someNonempty : pattern.map some ≠ [] := fun none => nonempty (map_eq_nil_iff.mp none)
  -- an occurrence is passed over as a whole, so the induction is on the length
  match text with
  | [] => rfl
  | none :: rest =>
    have front : ¬pattern.map some <+: none :: rest := by
      cases pattern with
      | nil => exact absurd rfl nonempty
      | cons char tail => exact fun occurs => nomatch (cons_prefix_cons.mp occurs).1
    rw [replaceAll_of_not front]
    change replaceAll pattern value (piece ++ insertPiece piece rest) = piece ++ insertPiece piece _
    rw [replaceAll_piece_append fenced (nil_append piece)]
    rw [replaceAll_insertPiece nonempty fenced rest]
  | some char :: rest =>
    by_cases occurs : pattern.map some <+: some char :: rest
    · obtain ⟨later, split⟩ := occurs
      have shorter : later.length < rest.length + 1 := by
        have lengths := congrArg length split
        have positive := length_pos_iff.mpr nonempty
        simp only [length_append, length_map, length_cons] at lengths
        omega
      rw [← split, replaceAll_append someNonempty, insertPiece_append, insertPiece_append,
        insertPiece_map_some, insertPiece_map_some, replaceAll_append nonempty]
      rw [replaceAll_insertPiece nonempty fenced later]
    · have front : ¬pattern <+: char :: insertPiece piece rest := fun real =>
        occurs ((prefix_insertPiece_iff fenced.absent fenced.starts _).mp real)
      rw [replaceAll_of_not occurs]
      change replaceAll pattern value (char :: insertPiece piece rest) = char :: insertPiece piece _
      rw [replaceAll_of_not front, replaceAll_insertPiece nonempty fenced rest]
termination_by text.length

end

end ShadowPanel.Data
