namespace ShadowPanel.Data

open List

/-! The commands of a line that a game console reads.  A line break ends a command, and
so does a semicolon that is not between double quotes. -/

def isLineBreak (char : Char) : Bool := char == '\n' || char == '\r'

def consoleCommands : (quoted : Bool) → List Char → List (List Char)
  | _, [] => [[]]
  | quoted, char :: rest =>
    if isLineBreak char || char == ';' && !quoted then [] :: consoleCommands false rest
    else (consoleCommands (if char == '"' then !quoted else quoted) rest).modifyHead (char :: ·)

/-- The text after so many double quotes has no line break, and each semicolon in it comes
after an odd number of them. -/
structure OneCommandAfter (quotes : Nat) (text : List Char) : Prop where
  unbroken : ∀ char ∈ text, isLineBreak char = false
  quoted : ∀ before after, text = before ++ ';' :: after → (quotes + before.count '"') % 2 = 1

theorem oneCommandAfter_nil (quotes : Nat) : OneCommandAfter quotes [] :=
  ⟨fun _ member => absurd member not_mem_nil,
    fun _ _ split => absurd (congrArg length split) (by simp)⟩

theorem count_cons_eq (mark char : Char) (rest : List Char) :
    (char :: rest).count mark = [char].count mark + rest.count mark := by
  rw [← count_append, singleton_append]

theorem oneCommandAfter_cons : OneCommandAfter quotes (char :: rest) ↔
    isLineBreak char = false ∧ (char = ';' → quotes % 2 = 1) ∧
      OneCommandAfter (quotes + [char].count '"') rest := by
  constructor
  · intro whole
    refine ⟨whole.unbroken char List.mem_cons_self, ?_, ?_, ?_⟩
    · rintro rfl
      exact whole.quoted [] rest rfl
    · exact fun other member => whole.unbroken other (List.mem_cons_of_mem _ member)
    · intro before after split
      have shown := whole.quoted (char :: before) after (congrArg (char :: ·) split)
      rw [count_cons_eq, ← Nat.add_assoc] at shown
      exact shown
  · intro parts
    obtain ⟨unbroken, first, later⟩ := parts
    refine ⟨List.forall_mem_cons.mpr ⟨unbroken, later.unbroken⟩, ?_⟩
    intro before after split
    cases before with
    | nil => exact first (List.cons.inj split).1
    | cons other before =>
      obtain ⟨rfl, remaining⟩ := List.cons.inj split
      have shown := later.quoted before after remaining
      rw [count_cons_eq, ← Nat.add_assoc]
      exact shown

theorem oneCommandAfter_append : OneCommandAfter quotes (first ++ second) ↔
    OneCommandAfter quotes first ∧ OneCommandAfter (quotes + first.count '"') second := by
  induction first generalizing quotes with
  | nil => exact ⟨fun later => ⟨oneCommandAfter_nil quotes, later⟩, And.right⟩
  | cons char rest ih =>
    rw [cons_append, oneCommandAfter_cons, oneCommandAfter_cons, ih,
      count_cons_eq '"' char rest, ← Nat.add_assoc, and_assoc, and_assoc]

theorem modifyHead_cons_eq_singleton :
    commands.modifyHead (char :: ·) = [char :: rest] ↔ commands = [rest] := by
  cases commands <;> simp

theorem quoted_next (quotes : Nat) (char : Char) :
    (if char == '"' then !(quotes % 2 == 1) else quotes % 2 == 1) =
      ((quotes + [char].count '"') % 2 == 1) := by
  by_cases quote : char = '"'
  · subst quote
    obtain even | odd := Nat.mod_two_eq_zero_or_one quotes
    · simp [even, Nat.add_mod]
    · simp [odd, Nat.add_mod]
  · simp [quote]

theorem consoleCommands_eq_singleton_iff :
    consoleCommands (quotes % 2 == 1) text = [text] ↔ OneCommandAfter quotes text := by
  induction text generalizing quotes with
  | nil => exact iff_of_true rfl (oneCommandAfter_nil quotes)
  | cons char rest ih =>
    rw [oneCommandAfter_cons, consoleCommands, quoted_next]
    split
    next ends =>
      refine iff_of_false (by simp) ?_
      rintro ⟨unbroken, semicolon, _⟩
      rw [unbroken, Bool.false_or, Bool.and_eq_true, beq_iff_eq] at ends
      rw [semicolon ends.1] at ends
      cases ends.2
    next continues =>
      rw [modifyHead_cons_eq_singleton, ih]
      rw [Bool.or_eq_true, not_or, Bool.not_eq_true] at continues
      refine ⟨fun later => ⟨continues.1, ?_, later⟩, fun parts => parts.2.2⟩
      rintro rfl
      simpa using continues.2

end ShadowPanel.Data
