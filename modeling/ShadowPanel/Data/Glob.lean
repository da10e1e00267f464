namespace ShadowPanel.Data.Glob

/-! Patterns in which `*` stands for any text and `?` for one character. -/

def star (rest : List Char → Bool) : List Char → Bool
  | [] => rest []
  | char :: text => rest (char :: text) || star rest text

def accepts : List Char → List Char → Bool
  | [], text => text.isEmpty
  | special :: pattern, text =>
    if special = '*' then
      star (accepts pattern) text
    else
      match text with
      | [] => false
      | char :: text => (special == '?' || special == char) && accepts pattern text

def Plain (literal : List Char) : Prop := ∀ char ∈ literal, char ≠ '*' ∧ char ≠ '?'

instance (literal : List Char) : Decidable (Plain literal) :=
  List.decidableBAll (fun char => char ≠ '*' ∧ char ≠ '?') literal

@[simp] theorem star_isEmpty (text : List Char) : star (fun rest => rest.isEmpty) text = true := by
  induction text with
  | nil => rfl
  | cons char text ih => simp [star, ih]

theorem accepts_append_star (plain : Plain literal) (text : List Char) :
    accepts (literal ++ ['*']) text = true ↔ literal <+: text := by
  induction literal generalizing text with
  | nil => simp [accepts]
  | cons first literal ih =>
    have first_ne := plain first (by simp)
    have rest_plain : Plain literal := fun char member => plain char (by simp [member])
    cases text with
    | nil => simp [accepts, first_ne.1]
    | cons char text =>
      simp [accepts, first_ne.1, first_ne.2, ih rest_plain]

end ShadowPanel.Data.Glob
