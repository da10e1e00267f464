import Mathlib.Data.List.AList

namespace ShadowPanel.Data

open List

universe u v

/-! Finite maps in which many keys can go at once. -/

abbrev Table (κ : Type u) (α : Type v) := AList fun _ : κ => α

namespace Table

variable {κ : Type u} {α : Type v}

def keep (table : Table κ α) (kept : κ → Bool) : Table κ α where
  entries := table.entries.filter fun entry => kept entry.1
  nodupKeys := table.nodupKeys.sublist filter_sublist

variable (table : Table κ α)

@[simp] theorem keep_keep (first second : κ → Bool) :
    (table.keep first).keep second = table.keep fun key => second key && first key :=
  AList.ext filter_filter

theorem keep_congr {table : Table κ α} {first second : κ → Bool}
    (same : ∀ key ∈ table, first key = second key) : table.keep first = table.keep second := by
  apply AList.ext
  apply filter_congr
  intro entry member
  exact same entry.1 (mem_map_of_mem member)

theorem keep_all {table : Table κ α} {kept : κ → Bool} (all : ∀ key ∈ table, kept key = true) :
    table.keep kept = table := by
  apply AList.ext
  apply filter_eq_self.mpr
  intro entry member
  exact all entry.1 (mem_map_of_mem member)

variable [DecidableEq κ]

@[simp] theorem lookup_keep (kept : κ → Bool) (key : κ) :
    (table.keep kept).lookup key = if kept key then table.lookup key else none := by
  ext value
  rw [← Option.mem_def, AList.mem_lookup_iff]
  cases stays : kept key with
  | true =>
    rw [if_pos rfl, ← Option.mem_def, AList.mem_lookup_iff]
    simp [keep, stays]
  | false => simp [keep, stays]

@[simp] theorem mem_keep {table : Table κ α} {kept : κ → Bool} :
    key ∈ table.keep kept ↔ kept key = true ∧ key ∈ table := by
  rw [← AList.lookup_isSome, ← AList.lookup_isSome, lookup_keep]
  cases kept key <;> simp

theorem lookup_insert_eq (key other : κ) (value : α) : (table.insert key value).lookup other =
    if other = key then some value else table.lookup other := by
  split
  next same =>
    subst same
    exact AList.lookup_insert table
  next different => exact AList.lookup_insert_ne different

end Table

end ShadowPanel.Data
