import Mathlib.Data.List.DropRight

namespace ShadowPanel.Metrics

open List

/-! The ring of the last responses of a node, of `internal/metrics/ring.go`. -/

structure Ring (α : Type) where
  capacity : Nat
  entries : List α

namespace Ring

variable {α : Type}

def new (capacity : Int) : Ring α := ⟨if capacity < 1 then 1 else capacity.toNat, []⟩

def append (ring : Ring α) : Option α → Ring α
  | none => ring
  | some entry =>
    if ring.entries.length < ring.capacity then { ring with entries := ring.entries ++ [entry] }
    else { ring with entries := ring.entries.tail ++ [entry] }

variable (timestamp : α → Int)

def snapshot (ring : Ring α) (minTimestamp : Int) : List α :=
  ring.entries.dropWhile fun entry => timestamp entry < minTimestamp

variable {timestamp} {capacity : Nat}

theorem append_rtake (positive : 0 < capacity) (appended : List α) (entry : α) :
    append ⟨capacity, appended.rtake capacity⟩ (some entry) =
      ⟨capacity, (appended ++ [entry]).rtake capacity⟩ := by
  simp only [append, rtake, length_drop, length_append, length_singleton]
  split
  next room =>
    rw [show appended.length - capacity = 0 by omega,
      show appended.length + 1 - capacity = 0 by omega]
    rfl
  next full =>
    rw [tail_drop, drop_append_of_le_length (by omega), Nat.sub_add_comm (by omega)]

theorem foldl_append (positive : 0 < capacity) (appends : List (Option α)) (appended : List α) :
    appends.foldl append ⟨capacity, appended.rtake capacity⟩ =
      ⟨capacity, (appended ++ appends.filterMap id).rtake capacity⟩ := by
  induction appends generalizing appended with
  | nil => simp
  | cons entry appends ih =>
    cases entry with
    | none => exact ih appended
    | some entry =>
      rw [foldl_cons, append_rtake positive, ih, append_assoc]
      rfl

theorem dropWhile_eq_filter_iff (recent : α → Bool) (entries : List α) :
    entries.dropWhile (!recent ·) = entries.filter recent ↔
      entries.Pairwise fun earlier later => recent earlier = true → recent later = true := by
  induction entries with
  | nil => simp
  | cons first rest ih =>
    cases isRecent : recent first with
    | false => simp [isRecent, ih]
    | true =>
      rw [dropWhile_cons_of_neg (by simp [isRecent]), filter_cons_of_pos isRecent,
        cons_inj_right, eq_comm, filter_eq_self, pairwise_cons]
      refine ⟨fun all => ⟨fun later member _ => all later member, ?_⟩, fun both later member => ?_⟩
      · exact pairwise_of_forall_mem_list fun _ _ later member _ => all later member
      · exact both.1 later member isRecent

/-- The entries that are recent enough are returned exactly when, of the last ones, none of them
stands before one that is older. -/
theorem snapshot_exact_iff (timestamp : α → Int) (capacity minTimestamp : Int)
    (appends : List (Option α)) :
    let ring : Ring α := appends.foldl append (new capacity)
    let last := (appends.filterMap id).rtake ring.capacity
    ring.snapshot timestamp minTimestamp = last.filter (minTimestamp ≤ timestamp ·) ↔
      last.Pairwise fun earlier later =>
        minTimestamp ≤ timestamp earlier → minTimestamp ≤ timestamp later := by
  obtain ⟨size, positive, start⟩ : ∃ size, 0 < size ∧ (new capacity : Ring α) = ⟨size, []⟩ := by
    refine ⟨_, ?_, rfl⟩
    split <;> omega
  have run := foldl_append positive appends []
  rw [rtake_nil, nil_append, ← start] at run
  have exactly :=
    dropWhile_eq_filter_iff (minTimestamp ≤ timestamp ·) ((appends.filterMap id).rtake size)
  simpa [run, snapshot, ← decide_not] using exactly

/-- A history answer that is appended after newer responses is returned with them. -/
theorem older_answer_returned :
    let ring := [some 5, some 9, some 3].foldl append (new 2)
    ring.snapshot id 4 = [9, 3] ∧ ([5, 9, 3].rtake 2).filter (4 ≤ ·) = [(9 : Int)] := by
  decide

end Ring

end ShadowPanel.Metrics
