namespace ShadowPanel.Data

open List

universe u v w

variable {α : Type u} {β : Type v} {γ : Type w}

/-! Stores that leave the order of their rows open, and scans that stop at the
first row on which they can decide. -/

structure Reordering (α : Type u) where
  apply : List α → List α
  perm : ∀ rows, (apply rows).Perm rows

namespace Reordering

def kept : Reordering α where
  apply rows := rows
  perm rows := .refl rows

def front (select : α → Bool) : Reordering α where
  apply rows := rows.filter select ++ rows.filter fun row => !select row
  perm rows := filter_append_perm select rows

def arranged [DecidableEq α] (source target : List α) (perm : target.Perm source) :
    Reordering α where
  apply rows := if rows = source then target else rows
  perm rows := by
    by_cases same : rows = source
    · simp [same, perm]
    · simp [same]

@[simp] theorem apply_arranged [DecidableEq α] (source target : List α)
    (perm : target.Perm source) : (arranged source target perm).apply source = target := by
  simp [arranged]

variable (order : Reordering α)

@[simp] theorem mem_apply (rows : List α) (row : α) : row ∈ order.apply rows ↔ row ∈ rows :=
  (order.perm rows).mem_iff

/-- Two rows come in the same order whatever other rows there are. -/
def Stable : Prop :=
  ∀ (select : α → Bool) (rows : List α),
    order.apply (rows.filter select) = (order.apply rows).filter select

theorem stable_front (select : α → Bool) : (front select).Stable := by
  intro other rows
  simp only [front, filter_append, filter_filter, Bool.and_comm]

theorem front_of_none_selected {select : α → Bool} {rows : List α}
    (none? : ∀ row ∈ rows, select row = false) : (front select).apply rows = rows := by
  have empty : rows.filter select = [] := by simpa [filter_eq_nil_iff] using none?
  have full : (rows.filter fun row => !select row) = rows := by
    simpa [filter_eq_self] using none?
  simp [front, empty, full]

def after (outer inner : Reordering α) : Reordering α where
  apply rows := outer.apply (inner.apply rows)
  perm rows := (outer.perm _).trans (inner.perm rows)

theorem Stable.after {outer inner : Reordering α} (outerStable : outer.Stable)
    (innerStable : inner.Stable) : (outer.after inner).Stable := by
  intro select rows
  simp only [Reordering.after, innerStable select, outerStable select]

theorem front_eq_cons (select : α → Bool) {rows : List α} {row : α} (member : row ∈ rows)
    (selected : select row = true) :
    ∃ first rest, (front select).apply rows = first :: rest ∧ first ∈ rows ∧
      select first = true := by
  have some : row ∈ rows.filter select := mem_filter.mpr ⟨member, selected⟩
  cases kept : rows.filter select with
  | nil => rw [kept] at some; cases some
  | cons first rest =>
    have isFirst : first ∈ rows.filter select := kept ▸ mem_cons_self
    refine ⟨first, rest ++ rows.filter fun row => !select row, ?_, mem_filter.mp isFirst⟩
    change rows.filter select ++ _ = _
    rw [kept]
    rfl

theorem apply_eq_cons (member : row ∈ rows) :
    ∃ first rest, order.apply rows = first :: rest ∧ first ∈ rows := by
  cases applied : order.apply rows with
  | nil =>
    have kept := (mem_apply order rows row).mpr member
    rw [applied] at kept
    cases kept
  | cons first rest =>
    exact ⟨first, rest, rfl, (mem_apply order rows first).mp (applied ▸ mem_cons_self)⟩

@[simp] theorem apply_toList (row : Option α) : order.apply row.toList = row.toList := by
  cases row with
  | none => exact perm_nil.mp (order.perm [])
  | some row => exact perm_singleton.mp (order.perm [row])

end Reordering

theorem findSome?_flatMap (decide? : α → Option γ) (members : β → List α) (groups : List β) :
    (groups.flatMap members).findSome? decide? =
      groups.findSome? fun group => (members group).findSome? decide? := by
  induction groups with
  | nil => rfl
  | cons group rest ih =>
    rw [flatMap_cons, findSome?_append, findSome?_cons, ih]
    cases (members group).findSome? decide? <;> rfl

theorem findSome?_filter (decide? : α → Option γ) (select : α → Bool) (rows : List α) :
    (rows.filter select).findSome? decide? =
      rows.findSome? fun row => if select row then decide? row else none := by
  induction rows with
  | nil => rfl
  | cons row rest ih =>
    rw [filter_cons, findSome?_cons]
    cases selected : select row with
    | true => simp [findSome?_cons, ih]
    | false => simp [ih]

theorem exists_of_findSome?_eq {rows : List α} (decided : rows.findSome? decide? = some decision) :
    ∃ row ∈ rows, decide? row = some decision := by
  obtain ⟨before, row, after, split, rowDecides, _⟩ :=
    findSome?_eq_some_iff.mp decided
  exact ⟨row, by simp [split], rowDecides⟩

theorem findSome?_eq_of_agree {rows : List α}
    (agree : ∀ row ∈ rows, ∀ other, decide? row = some other → other = decision)
    (decisive : ∃ row ∈ rows, decide? row = some decision) :
    rows.findSome? decide? = some decision := by
  cases scanned : rows.findSome? decide? with
  | none =>
    obtain ⟨row, member, rowDecides⟩ := decisive
    have silent := findSome?_eq_none_iff.mp scanned row member
    rw [silent] at rowDecides
    contradiction
  | some other =>
    obtain ⟨row, member, rowDecides⟩ := exists_of_findSome?_eq scanned
    rw [agree row member other rowDecides]

namespace Reordering

theorem findSome?_apply_eq_none (order : Reordering α) (decide? : α → Option γ) (rows : List α) :
    (order.apply rows).findSome? decide? = none ↔ ∀ row ∈ rows, decide? row = none := by
  simp [findSome?_eq_none_iff]

theorem exists_of_findSome?_apply_eq (order : Reordering α)
    (decided : (order.apply rows).findSome? decide? = some decision) :
    ∃ row ∈ rows, decide? row = some decision := by
  obtain ⟨row, member, rowDecides⟩ := exists_of_findSome?_eq decided
  exact ⟨row, (order.mem_apply rows row).mp member, rowDecides⟩

theorem Stable.findSome?_apply_congr {order : Reordering α} (stable : order.Stable)
    (same : rows.filter (fun row => (decide? row).isSome) = others.filter fun row =>
      (decide? row).isSome) :
    (order.apply rows).findSome? decide? = (order.apply others).findSome? decide? := by
  have decisive (rows : List α) : (order.apply rows).findSome? decide? =
      (order.apply (rows.filter fun row => (decide? row).isSome)).findSome? decide? := by
    rw [stable, findSome?_filter]
    congr 1
    funext row
    cases decide? row <;> rfl
  rw [decisive rows, decisive others, same]

theorem findSome?_front
    (agree : ∀ row ∈ rows, select row = true → ∀ other, decide? row = some other → other = decision)
    (decisive : ∃ row ∈ rows, select row = true ∧ decide? row = some decision) :
    ((front select).apply rows).findSome? decide? = some decision := by
  have frontDecides : (rows.filter select).findSome? decide? = some decision := by
    apply findSome?_eq_of_agree
    · intro row member other rowDecides
      rw [mem_filter] at member
      exact agree row member.1 member.2 other rowDecides
    · obtain ⟨row, member, selected, rowDecides⟩ := decisive
      exact ⟨row, mem_filter.mpr ⟨member, selected⟩, rowDecides⟩
  simp [front, findSome?_append, frontDecides]

end Reordering

end ShadowPanel.Data
