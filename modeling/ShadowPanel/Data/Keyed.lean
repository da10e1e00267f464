namespace ShadowPanel.Data

open List

universe u v

variable {α : Type u} {κ : Type v} [DecidableEq κ]

/-! Maps kept as lists of rows, each row with its own key. -/

def assign (key : α → κ) (row : α) (rows : List α) : List α :=
  rows.filter (fun other => key other ≠ key row) ++ [row]

theorem assign_of_fresh {key : α → κ} (fresh : ∀ other ∈ rows, key other ≠ key row) :
    assign key row rows = rows ++ [row] := by
  unfold assign
  rw [filter_eq_self.mpr]
  intro other member
  simpa using fresh other member

section

variable {key : α → κ} {rows : List α} (distinct : (rows.map key).Nodup)

include distinct

theorem nodup_assign : ((assign key row rows).map key).Nodup := by
  rw [assign, map_append, nodup_append]
  refine ⟨?_, by simp, ?_⟩
  · exact (filter_sublist.map key).nodup distinct
  · intro left leftMember right rightMember same
    obtain ⟨other, otherMember, rfl⟩ := mem_map.mp leftMember
    have different : key other ≠ key row := by
      simpa using (mem_filter.mp otherMember).2
    have rowKey : right = key row := by simpa using rightMember
    exact different (same.trans rowKey)

theorem find?_key_of_mem (member : row ∈ rows) :
    rows.find? (fun other => key other == key row) = some row := by
  induction rows with
  | nil => simp at member
  | cons head tail ih =>
    rw [map_cons, nodup_cons] at distinct
    rw [find?_cons]
    rcases mem_cons.mp member with rfl | tailMember
    · simp
    · have different : key head ≠ key row := by
        intro same
        exact distinct.1 (same ▸ mem_map_of_mem tailMember)
      simp only [beq_eq_false_iff_ne.mpr different]
      exact ih distinct.2 tailMember

theorem eq_of_key_eq (leftMember : left ∈ rows) (rightMember : right ∈ rows)
    (same : key left = key right) : left = right := by
  have one := find?_key_of_mem distinct leftMember
  rw [same, find?_key_of_mem distinct rightMember] at one
  exact (Option.some.inj one).symm

theorem filter_of_key (own : ∀ row, select row = true → key row = wanted) :
    rows.filter select = ((rows.find? fun row => key row == wanted).filter select).toList := by
  induction rows with
  | nil => rfl
  | cons head tail ih =>
    rw [map_cons, nodup_cons] at distinct
    by_cases same : key head = wanted
    · have later : tail.filter select = [] := by
        rw [filter_eq_nil_iff]
        intro row member selected
        have equal : key row = key head := (own row selected).trans same.symm
        exact distinct.1 (equal ▸ mem_map_of_mem member)
      rw [find?_cons_of_pos (by simpa using same), filter_cons, later]
      cases selected : select head <;> simp [Option.filter, selected]
    · have passed : ¬select head = true := fun selected => same (own head selected)
      rw [find?_cons_of_neg (by simpa using same), filter_cons_of_neg passed]
      exact ih distinct.2

end

omit [DecidableEq κ] in
theorem filterMap_sublist_map {rows : List α}
    (within : ∀ row value, pick row = some value → whole row = value) :
    (rows.filterMap pick).Sublist (rows.map whole) := by
  induction rows with
  | nil => exact .slnil
  | cons first rest ih =>
    cases picked : pick first with
    | none =>
      rw [filterMap_cons_none picked]
      exact ih.cons _
    | some value =>
      rw [filterMap_cons_some picked, map_cons, within first value picked]
      exact ih.cons_cons _

theorem map_of_ne {key : α → κ} {rewrite : α → α} {rows : List α}
    (apart : ∀ row ∈ rows, key row ≠ wanted) :
    (rows.map fun row => if key row = wanted then rewrite row else row) = rows := by
  refine (map_congr_left ?_).trans (map_id rows)
  intro row member
  exact if_neg (apart row member)

/-- Rows in the order of their numbers; a row takes the place of the one with
its number. -/
def place (number : α → Nat) (row : α) : List α → List α
  | [] => [row]
  | first :: rest =>
    if number row < number first then row :: first :: rest
    else if number row = number first then row :: rest
    else first :: place number row rest

section

omit [DecidableEq κ]

theorem place_split (number : α → Nat) (row : α) (rows : List α) :
    ∃ earlier old later, rows = earlier ++ (old ++ later) ∧
      place number row rows = earlier ++ row :: later ∧
        (∀ other ∈ earlier, number other < number row) ∧
          ∀ other ∈ old, number other = number row := by
  induction rows with
  | nil => exact ⟨[], [], [], rfl, rfl, by simp⟩
  | cons first rest ih =>
    unfold place
    split
    · exact ⟨[], [], first :: rest, rfl, rfl, by simp⟩
    · split
      next same => exact ⟨[], [first], rest, rfl, rfl, by simp [same]⟩
      next different =>
        obtain ⟨earlier, old, later, rfl, placed, less, numbers⟩ := ih
        refine ⟨first :: earlier, old, later, rfl, congrArg (first :: ·) placed, ?_, numbers⟩
        exact forall_mem_cons.mpr ⟨by omega, less⟩

theorem eq_or_mem_of_mem_place (member : other ∈ place number row rows) :
    other = row ∨ other ∈ rows := by
  obtain ⟨earlier, old, later, rfl, placed, -⟩ := place_split number row rows
  grind

theorem forall_mem_place {property : α → Prop} (new : property row)
    (old : ∀ other ∈ rows, property other) : ∀ other ∈ place number row rows, property other := by
  intro other member
  cases eq_or_mem_of_mem_place member with
  | inl isNew => exact isNew ▸ new
  | inr isOld => exact old other isOld

theorem length_place_le (number : α → Nat) (row : α) (rows : List α) :
    (place number row rows).length ≤ rows.length + 1 := by
  obtain ⟨earlier, old, later, rfl, placed, -⟩ := place_split number row rows
  grind

theorem mem_place_self (number : α → Nat) (row : α) (rows : List α) :
    row ∈ place number row rows := by
  obtain ⟨earlier, old, later, -, placed, -⟩ := place_split number row rows
  exact placed ▸ mem_append_right _ mem_cons_self

theorem mem_place_of_ne (member : other ∈ rows) (different : number row ≠ number other) :
    other ∈ place number row rows := by
  obtain ⟨earlier, old, later, rfl, placed, -, numbers⟩ := place_split number row rows
  grind

theorem pairwise_place
    (ordered : rows.Pairwise fun earlier later => number earlier < number later) :
    (place number row rows).Pairwise fun earlier later => number earlier < number later := by
  induction rows with
  | nil => exact pairwise_singleton _ row
  | cons first rest ih =>
    obtain ⟨before, later⟩ := pairwise_cons.mp ordered
    unfold place
    split
    next less =>
      refine pairwise_cons.mpr ⟨?_, ordered⟩
      intro other member
      cases mem_cons.mp member with
      | inl same => exact same ▸ less
      | inr inRest => exact Nat.lt_trans less (before other inRest)
    next notLess =>
      split
      next same => exact pairwise_cons.mpr ⟨same ▸ before, later⟩
      next different =>
        exact pairwise_cons.mpr ⟨forall_mem_place (by omega) before, ih later⟩

theorem pairwise_map {number : α → Nat} {rows : List α}
    (same : ∀ row, number (change row) = number row)
    (ordered : rows.Pairwise fun earlier later => number earlier < number later) :
    (rows.map change).Pairwise fun earlier later => number earlier < number later := by
  refine List.pairwise_map.mpr (ordered.imp ?_)
  intro earlier later less
  rw [same, same]
  exact less

theorem nodup_of_ordered {number : α → Nat} {rows : List α}
    (ordered : rows.Pairwise fun earlier later => number earlier < number later) :
    (rows.map number).Nodup := by
  rw [nodup_iff_pairwise_ne, List.pairwise_map]
  exact ordered.imp Nat.ne_of_lt

theorem filter_eq_singleton {number : α → Nat} {rows : List α}
    (ordered : rows.Pairwise fun earlier later => number earlier < number later)
    (member : row ∈ rows) (selected : select row = true)
    (own : ∀ other, select other = true → number other = number row) :
    rows.filter select = [row] := by
  have distinct := nodup_of_ordered ordered
  rw [filter_of_key distinct own, find?_key_of_mem distinct member]
  simp [Option.filter, selected]

theorem find?_place_self (number : α → Nat) (row : α) (rows : List α) :
    (place number row rows).find? (fun other => number other == number row) = some row := by
  obtain ⟨earlier, old, later, -, placed, less, -⟩ := place_split number row rows
  grind

theorem find?_place_of_ne (number : α → Nat) {row : α} {wanted : Nat} (other : number row ≠ wanted)
    (rows : List α) :
    (place number row rows).find? (fun other => number other == wanted) =
      rows.find? fun other => number other == wanted := by
  obtain ⟨earlier, old, later, rfl, placed, -, numbers⟩ := place_split number row rows
  grind

theorem place_eq_map (ordered : rows.Pairwise fun earlier later => number earlier < number later)
    (held : ∃ old ∈ rows, number old = number row) :
    place number row rows = rows.map fun old => if number old = number row then row else old := by
  induction rows with
  | nil => simp at held
  | cons first rest ih =>
    obtain ⟨before, later⟩ := pairwise_cons.mp ordered
    obtain ⟨old, member, same⟩ := held
    unfold place
    cases mem_cons.mp member with
    | inl isFirst =>
      subst isFirst
      rw [if_neg (by omega), if_pos same.symm, map_cons, if_pos same,
        map_of_ne fun other inRest => same ▸ Nat.ne_of_gt (before other inRest)]
    | inr inRest =>
      have less : number first < number old := before old inRest
      rw [if_neg (by omega), if_neg (by omega), map_cons, if_neg (by omega),
        ih later ⟨old, inRest, same⟩]

def Replaced (old new : α) (before behind : List α) : Prop :=
  ∃ earlier later, before = earlier ++ old :: later ∧ behind = earlier ++ new :: later

theorem Replaced.cons (replaced : Replaced old new before behind) (first : α) :
    Replaced old new (first :: before) (first :: behind) := by
  obtain ⟨earlier, later, rfl, rfl⟩ := replaced
  exact ⟨first :: earlier, later, rfl, rfl⟩

theorem Replaced.filterMap_eq_iff (replaced : Replaced old new before behind)
    (view : α → Option β) :
    behind.filterMap view = before.filterMap view ↔ view new = view old := by
  obtain ⟨earlier, later, rfl, rfl⟩ := replaced
  cases seenNew : view new <;> cases seenOld : view old <;> simp [seenNew, seenOld]

end

theorem replaced_map {key : α → κ} {rewrite : α → α} (distinct : (rows.map key).Nodup)
    (member : old ∈ rows) :
    Replaced old (rewrite old) rows
      (rows.map fun row => if key row = key old then rewrite row else row) := by
  induction rows with
  | nil => cases member
  | cons first rest ih =>
    rw [map_cons, nodup_cons] at distinct
    have apart : ∀ row ∈ rest, key row ≠ key first :=
      fun row inRest same => distinct.1 (same ▸ mem_map_of_mem inRest)
    rw [map_cons]
    cases mem_cons.mp member with
    | inl isFirst =>
      subst isFirst
      rw [if_pos rfl, map_of_ne apart]
      exact ⟨[], rest, rfl, rfl⟩
    | inr inRest =>
      rw [if_neg (apart old inRest).symm]
      exact (ih distinct.2 inRest).cons first

theorem replaced_place {number : α → Nat} {old : α} (new : α) {rows : List α}
    (ordered : rows.Pairwise fun earlier later => number earlier < number later)
    (member : old ∈ rows) (same : number new = number old) :
    Replaced old new rows (place number new rows) := by
  rw [place_eq_map ordered ⟨old, member, same.symm⟩, same]
  exact replaced_map (List.pairwise_map.mpr (ordered.imp Nat.ne_of_lt)) member

/-- The lists differ in the rows that are written and in nothing else: what
selects none of these selects the same rows from both. -/
def DifferIn (written : α → Prop) (before behind : List α) : Prop :=
  ∀ select : α → Bool,
    (∀ row, written row → row ∈ before ∨ row ∈ behind → select row = false) →
      behind.filter select = before.filter select

section

omit [DecidableEq κ]

theorem DifferIn.refl (written : α → Prop) (rows : List α) : DifferIn written rows rows := by
  intro select unselected
  rfl

theorem DifferIn.mono (differ : DifferIn written before behind)
    (implies : ∀ row, written row → wider row) : DifferIn wider before behind := by
  intro select unselected
  exact differ select fun row isWritten => unselected row (implies row isWritten)

theorem DifferIn.same_or_selected (differ : DifferIn written before behind) (select : α → Bool) :
    behind.filter select = before.filter select ∨
      ∃ row, written row ∧ (row ∈ before ∨ row ∈ behind) ∧ select row = true := by
  by_cases selected : ∃ row, written row ∧ (row ∈ before ∨ row ∈ behind) ∧ select row = true
  · exact .inr selected
  · left
    apply differ select
    intro row isWritten member
    rw [Bool.eq_false_iff]
    intro taken
    exact selected ⟨row, isWritten, member, taken⟩

theorem differIn_place (number : α → Nat) (row : α) (rows : List α) :
    DifferIn (fun other => number other = number row) rows (place number row rows) := by
  intro select unselected
  have new : select row = false := unselected row rfl (.inr (mem_place_self number row rows))
  have old : ∀ other ∈ rows, number other = number row → select other = false :=
    fun other member same => unselected other same (.inl member)
  obtain ⟨earlier, held, later, rfl, placed, -, numbers⟩ := place_split number row rows
  have gone : held.filter select = [] := by
    rw [filter_eq_nil_iff]
    intro other member
    simp [old other (by simp [member]) (numbers other member)]
  simp [placed, new, gone]

theorem differIn_filter (keep : α → Bool) (rows : List α) :
    DifferIn (fun row => keep row = false) rows (rows.filter keep) := by
  intro select unselected
  rw [filter_filter]
  apply filter_congr
  intro row member
  cases kept : keep row with
  | true => simp
  | false => simp [unselected row kept (.inl member)]

theorem differIn_map (rewritten : ∀ row, rewrite row = row ∨ written row ∧ written (rewrite row)) :
    DifferIn written rows (rows.map rewrite) := by
  intro select unselected
  induction rows with
  | nil => rfl
  | cons first rest ih =>
    have later := ih fun row isWritten member =>
      unselected row isWritten (member.imp (mem_cons_of_mem _) (mem_cons_of_mem _))
    cases rewritten first with
    | inl same => simp only [map_cons, filter_cons, same, later]
    | inr both =>
      have old := unselected first both.1 (.inl mem_cons_self)
      have new := unselected (rewrite first) both.2 (.inr mem_cons_self)
      simp [old, new, later]

end

def lastNumber (numbers : List Nat) : Nat := numbers.foldr max 0

omit [DecidableEq κ] in
theorem le_lastNumber (number : α → Nat) {rows : List α} :
    ∀ row ∈ rows, number row ≤ lastNumber (rows.map number) := by
  induction rows with
  | nil => intro row member; cases member
  | cons first rest ih =>
    intro row member
    cases mem_cons.mp member with
    | inl same =>
      subst same
      exact Nat.le_max_left _ _
    | inr later => exact Nat.le_trans (ih row later) (Nat.le_max_right _ _)

end ShadowPanel.Data
