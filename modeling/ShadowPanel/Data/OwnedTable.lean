import Mathlib.Logic.Function.Basic

namespace ShadowPanel.Data

universe u v

/-! Tables whose entries each belong to an owner, and what a step leaves of the
entries of the others. -/

section

variable {κ : Type u} {α : Type v} [DecidableEq κ] {owner : α → Nat}
  {before after : κ → Option α}

def OwnEntry (owner : α → Nat) (mine : Nat) (table : κ → Option α) (key : κ) : Prop :=
  ∀ entry, table key = some entry → owner entry = mine

def OthersKept (owner : α → Nat) (mine : Nat) (before after : κ → Option α) (addressed : List κ) :
    Prop :=
  ∀ key entry, before key = some entry → owner entry ≠ mine →
    after key = some entry ∧ key ∉ addressed

omit [DecidableEq κ] in
theorem othersKept_self : OthersKept owner mine before before [] :=
  fun _ _ stored _ => ⟨stored, List.not_mem_nil⟩

omit [DecidableEq κ] in
theorem othersKept_iff_of_single (elsewhere : ∀ other ≠ key, after other = before other)
    (within : ∀ other ∈ addressed, other = key)
    (touched : ∀ entry, before key = some entry → after key ≠ some entry ∨ key ∈ addressed) :
    OthersKept owner mine before after addressed ↔ OwnEntry owner mine before key := by
  constructor
  · intro kept entry stored
    refine Decidable.byContradiction fun foreign => ?_
    obtain ⟨unchanged, unaddressed⟩ := kept key entry stored foreign
    cases touched entry stored with
    | inl changed => exact changed unchanged
    | inr reached => exact unaddressed reached
  · intro own other entry stored foreign
    have different : other ≠ key := by
      intro same
      subst same
      exact foreign (own entry stored)
    exact ⟨(elsewhere other different).trans stored,
      fun reached => different (within other reached)⟩

theorem othersKept_erase_iff (within : ∀ other ∈ addressed, other = key) :
    OthersKept owner mine before (Function.update before key none) addressed ↔
      OwnEntry owner mine before key := by
  refine othersKept_iff_of_single ?_ within ?_
  · intro other different
    exact Function.update_of_ne different _ _
  · intro entry stored
    simp

omit [DecidableEq κ] in
theorem othersKept_address_iff :
    OthersKept owner mine before before [key] ↔ OwnEntry owner mine before key := by
  refine othersKept_iff_of_single (fun _ _ => rfl) ?_ ?_
  · intro other reached
    exact List.mem_singleton.mp reached
  · intro entry stored
    exact .inr (List.mem_singleton_self key)

end

end ShadowPanel.Data
