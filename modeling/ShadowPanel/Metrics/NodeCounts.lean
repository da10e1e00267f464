import ShadowPanel.Metrics.Hub

namespace ShadowPanel.Metrics

open Data

/-! The counts of one node, and what they have to do with its polling. -/

def maxCount : Int := 9223372036854775807

def countsFrom (start : Int) (entries : List RemoteCount) : Int :=
  entries.foldl (fun sum entry => sum + entry.count) start

theorem countsFrom_add (start more : Int) (entries : List RemoteCount) :
    countsFrom (start + more) entries = countsFrom start entries + more := by
  induction entries generalizing start with
  | nil => rfl
  | cons entry rest ih =>
    have swapped : start + more + entry.count = start + entry.count + more := by omega
    unfold countsFrom at ih ⊢
    rw [List.foldl_cons, List.foldl_cons, swapped, ih]

@[simp] theorem countsFrom_cons (start : Int) (entry : RemoteCount) (rest : List RemoteCount) :
    countsFrom start (entry :: rest) = countsFrom start rest + entry.count :=
  countsFrom_add start entry.count rest

@[simp] theorem countsFrom_append (start : Int) (entries : List RemoteCount) (entry : RemoteCount) :
    countsFrom start (entries ++ [entry]) = countsFrom start entries + entry.count := by
  unfold countsFrom
  rw [List.foldl_append]
  rfl

section

variable {start : Int}

theorem le_countsFrom (start : Int) (positive : ∀ entry ∈ entries, 0 < entry.count) :
    start ≤ countsFrom start entries := by
  induction entries with
  | nil => exact Int.le_refl start
  | cons entry rest ih =>
    obtain ⟨first, later⟩ := List.forall_mem_cons.mp positive
    have bound := ih later
    rw [countsFrom_cons]
    omega

theorem countsFrom_filter_le (start : Int) (keep : RemoteCount → Bool)
    (positive : ∀ entry ∈ entries, 0 < entry.count) :
    countsFrom start (entries.filter keep) ≤ countsFrom start entries := by
  induction entries with
  | nil => exact Int.le_refl _
  | cons entry rest ih =>
    obtain ⟨first, later⟩ := List.forall_mem_cons.mp positive
    have bound := ih later
    rw [List.filter_cons]
    split
    · rw [countsFrom_cons, countsFrom_cons]
      omega
    · rw [countsFrom_cons]
      omega

theorem countsFrom_pos_iff (positive : ∀ entry ∈ entries, 0 < entry.count) (nonneg : 0 ≤ start) :
    0 < countsFrom start entries ↔ 0 < start ∨ entries ≠ [] := by
  cases entries with
  | nil => simp [countsFrom]
  | cons entry rest =>
    obtain ⟨first, later⟩ := List.forall_mem_cons.mp positive
    have bound := le_countsFrom start later
    rw [countsFrom_cons]
    exact iff_of_true (by omega) (.inr (List.cons_ne_nil _ _))

theorem int64_of_small (nonneg : 0 ≤ number) (small : number ≤ maxCount) :
    int64 number = number := by
  unfold maxCount at small
  apply Int.bmod_eq_of_le <;> omega

theorem foldl_int64_eq_countsFrom (positive : ∀ entry ∈ entries, 0 < entry.count)
    (nonneg : 0 ≤ start) (small : countsFrom start entries ≤ maxCount) :
    entries.foldl (fun sum entry => int64 (sum + entry.count)) start =
      countsFrom start entries := by
  induction entries generalizing start with
  | nil => rfl
  | cons entry rest ih =>
    obtain ⟨first, later⟩ := List.forall_mem_cons.mp positive
    have whole : countsFrom start (entry :: rest) = countsFrom (start + entry.count) rest := rfl
    have bound := le_countsFrom (start + entry.count) later
    have fits : int64 (start + entry.count) = start + entry.count :=
      int64_of_small (by omega) (by omega)
    rw [List.foldl_cons, fits]
    exact ih later (by omega) (by omega)

end

namespace NodeState

def total (state : NodeState) : Int := countsFrom state.localCount state.remoteCounts

def demanded (now : Int) (state : NodeState) : Bool :=
  decide (0 < state.localCount) ||
    state.remoteCounts.any fun entry => decide (0 < entry.count) && !decide (entry.expires < now)

structure WellFormed (state : NodeState) : Prop where
  nonneg : 0 ≤ state.localCount
  positive : ∀ entry ∈ state.remoteCounts, 0 < entry.count
  small : state.total ≤ maxCount

variable {now : Int} {state : NodeState}

theorem demanded_of_later (order : now ≤ later) (demands : state.demanded later = true) :
    state.demanded now = true := by
  simp only [demanded, Bool.or_eq_true, List.any_eq_true, Bool.and_eq_true,
    Bool.not_eq_true', decide_eq_false_iff_not] at demands ⊢
  apply demands.imp_right
  intro ⟨entry, member, positive, unexpired⟩
  exact ⟨entry, member, positive, by omega⟩

@[simp] theorem demanded_dropExpired (state : NodeState) :
    (state.dropExpired now).demanded now = state.demanded now := by
  unfold demanded dropExpired
  rw [List.any_filter]
  congr 2
  funext entry
  cases decide (entry.expires < now) <;> simp

theorem WellFormed.dropExpired (now : Int) (wellFormed : state.WellFormed) :
    (state.dropExpired now).WellFormed where
  nonneg := wellFormed.nonneg
  positive := fun entry member => wellFormed.positive entry (List.mem_filter.mp member).1
  small := Int.le_trans (countsFrom_filter_le _ _ wellFormed.positive) wellFormed.small

theorem WellFormed.aggregated_eq (wellFormed : state.WellFormed) : state.aggregated = state.total :=
  foldl_int64_eq_countsFrom wellFormed.positive wellFormed.nonneg wellFormed.small

theorem WellFormed.aggregated_pos_iff (now : Int) (wellFormed : state.WellFormed) :
    0 < (state.dropExpired now).aggregated ↔ state.demanded now = true := by
  have dropped := WellFormed.dropExpired now wellFormed
  rw [dropped.aggregated_eq, total, countsFrom_pos_iff dropped.positive dropped.nonneg, demanded,
    Bool.or_eq_true, decide_eq_true_eq, List.any_eq_true]
  apply or_congr_right
  constructor
  · intro present
    obtain ⟨entry, kept⟩ := List.exists_mem_of_ne_nil _ present
    obtain ⟨member, unexpired⟩ := List.mem_filter.mp kept
    refine ⟨entry, member, ?_⟩
    rw [decide_eq_true (wellFormed.positive entry member)]
    exact unexpired
  · intro ⟨entry, member, unexpired⟩
    rw [Bool.and_eq_true] at unexpired
    exact List.ne_nil_of_mem (List.mem_filter.mpr ⟨member, unexpired.2⟩)

structure SameCounts (now : Int) (before after : NodeState) : Prop where
  localCount : after.localCount = before.localCount
  subscribers : after.subscribers = before.subscribers
  remoteCounts : after.remoteCounts = (before.dropExpired now).remoteCounts

theorem sameCounts_startOrStopPoll (now : Int) (state : NodeState) :
    SameCounts now state (state.startOrStopPoll now) := by
  unfold startOrStopPoll
  dsimp only
  split
  · exact ⟨rfl, rfl, rfl⟩
  · split
    · exact ⟨rfl, rfl, rfl⟩
    · exact ⟨rfl, rfl, rfl⟩

theorem sameCounts_stopPollIfStillIdle (now : Int) (state : NodeState) :
    SameCounts now state (state.stopPollIfStillIdle now) := by
  unfold stopPollIfStillIdle
  dsimp only
  split
  · exact ⟨rfl, rfl, rfl⟩
  · exact ⟨rfl, rfl, rfl⟩

theorem SameCounts.wellFormed (same : SameCounts now state after) (wellFormed : state.WellFormed) :
    after.WellFormed := by
  have dropped := WellFormed.dropExpired now wellFormed
  obtain ⟨localCount, _, remoteCounts⟩ := same
  refine ⟨?_, ?_, ?_⟩
  · rw [localCount]
    exact dropped.nonneg
  · rw [remoteCounts]
    exact dropped.positive
  · rw [total, localCount, remoteCounts]
    exact dropped.small

theorem SameCounts.demanded_eq (same : SameCounts now state after) :
    after.demanded now = state.demanded now := by
  rw [← demanded_dropExpired state, demanded, same.localCount, same.remoteCounts]
  rfl

theorem WellFormed.polling_startOrStopPoll (wellFormed : state.WellFormed) :
    (state.startOrStopPoll now).polling = (state.polling || state.demanded now) := by
  have demand := WellFormed.aggregated_pos_iff now wellFormed
  unfold startOrStopPoll
  dsimp only
  split
  next starts => rw [demand.mp starts.1, Bool.or_true]
  next waits =>
    have same : state.polling = (state.polling || state.demanded now) := by
      cases polling : state.polling with
      | true => rfl
      | false =>
        rw [eq_comm, Bool.eq_false_iff]
        exact fun demands => waits ⟨demand.mpr demands, polling⟩
    split
    · exact same
    · exact same

theorem WellFormed.polling_stopPollIfStillIdle (wellFormed : state.WellFormed) :
    (state.stopPollIfStillIdle now).polling = (state.polling && state.demanded now) := by
  have demand := WellFormed.aggregated_pos_iff now wellFormed
  unfold stopPollIfStillIdle
  dsimp only
  split
  next idle =>
    rw [demand.mp idle, Bool.and_true]
    rfl
  next idle =>
    rw [Bool.eq_false_iff.mpr (fun demands => idle (demand.mpr demands)), Bool.and_false]

theorem WellFormed.addSubscriber (wellFormed : state.WellFormed) (room : state.total + 1 ≤ maxCount)
    {subscribers : List Nat} :
    (state.addSubscriber index subscribers).localCount = state.localCount + 1 ∧
      (state.addSubscriber index subscribers).WellFormed := by
  have bound := le_countsFrom state.localCount wellFormed.positive
  have nonneg := wellFormed.nonneg
  rw [total] at room
  have counted : (state.addSubscriber index subscribers).localCount = state.localCount + 1 :=
    int64_of_small (by omega) (by omega)
  refine ⟨counted, ?_, wellFormed.positive, ?_⟩
  · omega
  · rw [total, counted, countsFrom_add]
    exact room

theorem WellFormed.announce (wellFormed : state.WellFormed) (room : state.total + count ≤ maxCount)
    (instanceID : String) (expires : Int) :
    (state.announce instanceID count expires).WellFormed := by
  have kept : ∀ keep : RemoteCount → Bool,
      ∀ entry ∈ state.remoteCounts.filter keep, 0 < entry.count :=
    fun _ entry member => wellFormed.positive entry (List.mem_filter.mp member).1
  have less (keep : RemoteCount → Bool) :=
    countsFrom_filter_le state.localCount keep wellFormed.positive
  unfold NodeState.announce
  split
  · exact ⟨wellFormed.nonneg, kept _, Int.le_trans (less _) wellFormed.small⟩
  next positive =>
    refine ⟨wellFormed.nonneg, ?_, ?_⟩
    · intro entry member
      cases List.mem_append.mp member with
      | inl before => exact kept _ entry before
      | inr new =>
        rw [List.mem_singleton.mp new]
        exact Int.not_le.mp positive
    · have bound := less fun other => decide (other.instanceID ≠ instanceID)
      rw [total] at room
      rw [total, assign, countsFrom_append]
      dsimp only
      omega

theorem counts_announce (state : NodeState) (instanceID : String) (count expires : Int) :
    (state.announce instanceID count expires).localCount = state.localCount ∧
      (state.announce instanceID count expires).subscribers = state.subscribers := by
  unfold NodeState.announce
  split
  · exact ⟨rfl, rfl⟩
  · exact ⟨rfl, rfl⟩

theorem WellFormed.removeSubscriber (wellFormed : state.WellFormed) (index : Nat) :
    (state.removeSubscriber index).WellFormed := by
  have nonneg := wellFormed.nonneg
  have small := wellFormed.small
  unfold NodeState.removeSubscriber
  split
  · exact wellFormed
  · split
    · split
      next positive =>
        refine ⟨by dsimp only; omega, wellFormed.positive, ?_⟩
        have less := countsFrom_add (state.localCount - 1) 1 state.remoteCounts
        rw [Int.sub_add_cancel] at less
        rw [total] at small ⊢
        dsimp only
        omega
      · exact ⟨nonneg, wellFormed.positive, small⟩
    · exact wellFormed

theorem WellFormed.stop (wellFormed : state.WellFormed) : state.stop.WellFormed :=
  ⟨wellFormed.nonneg, wellFormed.positive, wellFormed.small⟩

theorem wellFormed_new : newNodeState.WellFormed :=
  ⟨Int.le_refl 0, fun _ member => (nomatch member), by decide⟩

end NodeState

end ShadowPanel.Metrics
