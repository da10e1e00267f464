import ShadowPanel.Data.Reordering

namespace ShadowPanel.Data

open Reordering List

universe u v w

variable {α : Type u} {β : Type v} {γ : Type w}

/-! A first layer of rows, then a second layer that is read group by group.
Every list comes from a store that leaves its order open, and a scan stops at
the first row on which it can decide. -/

structure LayeredOrder (α : Type u) (β : Type v) where
  first : Reordering α
  groups : Reordering β
  members : β → Reordering α

/-- What is stored: the rows of the first layer, the groups, the rows of each
group and which of them the group lets through. -/
structure Layers (α : Type u) (β : Type v) where
  first : List α
  groups : List β
  members : β → List α
  admits : β → α → Bool

namespace Layers

variable (layers : Layers α β)

section

variable (order : LayeredOrder α β)

def read : List α :=
  order.first.apply layers.first ++
    (order.groups.apply layers.groups).flatMap fun group =>
      ((order.members group).apply (layers.members group)).filter (layers.admits group)

def admitted (group : β) : List α := (layers.members group).filter (layers.admits group)

def second : List α := layers.groups.flatMap layers.admitted

@[simp] theorem mem_second :
    row ∈ layers.second ↔ ∃ group ∈ layers.groups, row ∈ layers.admitted group := by
  simp [second]

@[simp] theorem mem_admitted :
    row ∈ layers.admitted group ↔ row ∈ layers.members group ∧ layers.admits group row = true := by
  simp [admitted]

@[simp] theorem mem_read (row : α) :
    row ∈ layers.read order ↔ row ∈ layers.first ∨ row ∈ layers.second := by
  simp [read, second, admitted]

theorem findSome?_read (decide? : α → Option γ) :
    (layers.read order).findSome? decide? = ((order.first.apply layers.first).findSome? decide?).or
        ((order.groups.apply layers.groups).findSome? fun group =>
          (((order.members group).apply (layers.members group)).filter
            (layers.admits group)).findSome? decide?) := by
  rw [read, findSome?_append, findSome?_flatMap]

def Decides (decide? : α → Option γ) (decision : γ) (rows : List α) : Prop :=
  ∃ row ∈ rows, decide? row = some decision

def Silent (decide? : α → Option γ) (rows : List α) : Prop := ∀ row ∈ rows, decide? row = none

theorem findSome?_read_of_first
    (decided : (order.first.apply layers.first).findSome? decide? = some decision) :
    (layers.read order).findSome? decide? = some decision := by
  rw [findSome?_read, decided, Option.some_or]

theorem findSome?_read_eq_none (decide? : α → Option γ) :
    (layers.read order).findSome? decide? = none ↔
      Silent decide? layers.first ∧ Silent decide? layers.second := by
  rw [findSome?_eq_none_iff]
  constructor
  · intro silent
    exact ⟨fun row member => silent row ((layers.mem_read order row).mpr (.inl member)),
      fun row member => silent row ((layers.mem_read order row).mpr (.inr member))⟩
  · rintro ⟨firstSilent, secondSilent⟩ row member
    rcases (layers.mem_read order row).mp member with inFirst | inSecond
    · exact firstSilent row inFirst
    · exact secondSilent row inSecond

end

theorem decides_of_findSome?_read
    (decided : (layers.read order).findSome? decide? = some decision) :
    Decides decide? decision layers.first ∨
      Silent decide? layers.first ∧ Decides decide? decision layers.second := by
  rw [findSome?_read] at decided
  cases scanned : (order.first.apply layers.first).findSome? decide? with
  | some other =>
    rw [scanned] at decided
    have same : other = decision := by simpa using decided
    exact .inl (same ▸ order.first.exists_of_findSome?_apply_eq scanned)
  | none =>
    rw [scanned] at decided
    refine .inr ⟨(order.first.findSome?_apply_eq_none decide? _).mp scanned, ?_⟩
    obtain ⟨group, groupMember, groupDecides⟩ :=
      order.groups.exists_of_findSome?_apply_eq decided
    obtain ⟨row, rowMember, rowDecides⟩ := exists_of_findSome?_eq groupDecides
    refine ⟨row, layers.mem_second.mpr ⟨group, groupMember, ?_⟩, rowDecides⟩
    simpa [admitted] using rowMember

def favouring [DecidableEq γ] (decide? : α → Option γ) (decision : γ) : LayeredOrder α β where
  first := .front fun row => decide? row == some decision
  groups := .front fun group =>
    (layers.admitted group).any fun row => decide? row == some decision
  members := fun _ => .front fun row => decide? row == some decision

section

variable [DecidableEq γ] {decide? : α → Option γ}

theorem findSome?_read_favouring_first (decides : Decides decide? decision layers.first) :
    (layers.read (layers.favouring decide? decision)).findSome? decide? = some decision := by
  obtain ⟨row, member, rowDecides⟩ := decides
  have settled : ((layers.favouring decide? decision).first.apply
      layers.first).findSome? decide? = some decision := by
    apply findSome?_front
    · intro other _ selected otherDecision otherDecides
      have same : decide? other = some decision := by simpa using selected
      exact Option.some.inj (otherDecides.symm.trans same)
    · exact ⟨row, member, by simp [rowDecides], rowDecides⟩
  rw [findSome?_read, settled, Option.some_or]

theorem findSome?_favouring_group (decides : Decides decide? decision (layers.admitted group)) :
    ((((layers.favouring decide? decision).members group).apply
      (layers.members group)).filter (layers.admits group)).findSome? decide? = some decision := by
  obtain ⟨row, member, rowDecides⟩ := decides
  obtain ⟨stored, letThrough⟩ := layers.mem_admitted.mp member
  rw [findSome?_filter]
  apply findSome?_front
  · intro other _ selected otherDecision otherDecides
    have same : decide? other = some decision := by simpa using selected
    split at otherDecides
    · exact Option.some.inj (otherDecides.symm.trans same)
    · contradiction
  · exact ⟨row, stored, by simp [rowDecides], by simp [letThrough, rowDecides]⟩

theorem findSome?_read_favouring_second (silent : Silent decide? layers.first)
    (decides : Decides decide? decision layers.second) :
    (layers.read (layers.favouring decide? decision)).findSome? decide? = some decision := by
  obtain ⟨row, member, rowDecides⟩ := decides
  obtain ⟨group, groupMember, rowMember⟩ := layers.mem_second.mp member
  have firstSilent : ((layers.favouring decide? decision).first.apply
      layers.first).findSome? decide? = none :=
    (findSome?_apply_eq_none _ _ _).mpr silent
  rw [findSome?_read, firstSilent]
  apply findSome?_front
  · intro other _ selected otherDecision otherDecides
    obtain ⟨favoured, favouredMember, favouredDecides⟩ := any_eq_true.mp selected
    have favours : Decides decide? decision (layers.admitted other) :=
      ⟨favoured, favouredMember, by simpa using favouredDecides⟩
    have decidesOther := layers.findSome?_favouring_group favours
    exact Option.some.inj (otherDecides.symm.trans decidesOther)
  · refine ⟨group, groupMember, ?_, layers.findSome?_favouring_group ⟨row, rowMember, rowDecides⟩⟩
    exact any_eq_true.mpr ⟨row, rowMember, by simp [rowDecides]⟩

end

theorem exists_findSome?_read_eq_some [DecidableEq γ] {decision : γ} :
    (∃ order : LayeredOrder α β, (layers.read order).findSome? decide? = some decision) ↔
      Decides decide? decision layers.first ∨
        Silent decide? layers.first ∧ Decides decide? decision layers.second := by
  constructor
  · rintro ⟨order, decided⟩
    exact layers.decides_of_findSome?_read decided
  · rintro (first | ⟨silent, second⟩)
    · exact ⟨_, layers.findSome?_read_favouring_first first⟩
    · exact ⟨_, layers.findSome?_read_favouring_second silent second⟩

theorem not_decides_of_silent (silent : Silent decide? rows) : ¬Decides decide? decision rows := by
  rintro ⟨row, member, rowDecides⟩
  rw [silent row member] at rowDecides
  contradiction

def Uniform (decide? : α → Option γ) : Prop :=
  (∀ one other, Decides decide? one layers.first → Decides decide? other layers.first →
      one = other) ∧
    (Silent decide? layers.first → ∀ one other, Decides decide? one layers.second →
      Decides decide? other layers.second → one = other)

/-- Two rows that can settle the scan differ: in the first layer, or in the
second below a silent first one. -/
def Raced (decide? : α → Option γ) (one other : γ) : Prop :=
  Decides decide? one layers.first ∧ Decides decide? other layers.first ∨
    Silent decide? layers.first ∧
      Decides decide? one layers.second ∧ Decides decide? other layers.second

theorem raced_of_findSome?_read (oneDecided : (layers.read oneOrder).findSome? decide? = some one)
    (otherDecided : (layers.read otherOrder).findSome? decide? = some other) :
    layers.Raced decide? one other := by
  rcases layers.decides_of_findSome?_read oneDecided with first | ⟨silent, second⟩ <;>
    rcases layers.decides_of_findSome?_read otherDecided with
      otherFirst | ⟨otherSilent, otherSecond⟩
  · exact .inl ⟨first, otherFirst⟩
  · exact absurd first (not_decides_of_silent otherSilent)
  · exact absurd otherFirst (not_decides_of_silent silent)
  · exact .inr ⟨silent, second, otherSecond⟩

theorem Uniform.eq_of_raced (uniform : layers.Uniform decide?)
    (raced : layers.Raced decide? one other) : one = other := by
  rcases raced with ⟨first, otherFirst⟩ | ⟨silent, second, otherSecond⟩
  · exact uniform.1 one other first otherFirst
  · exact uniform.2 silent one other second otherSecond

theorem Uniform.findSome?_read_eq (uniform : layers.Uniform decide?)
    (oneOrder otherOrder : LayeredOrder α β) :
    (layers.read oneOrder).findSome? decide? = (layers.read otherOrder).findSome? decide? := by
  cases one : (layers.read oneOrder).findSome? decide? with
  | none =>
    rw [eq_comm, findSome?_read_eq_none]
    exact (layers.findSome?_read_eq_none oneOrder decide?).mp one
  | some decision =>
    cases other : (layers.read otherOrder).findSome? decide? with
    | none =>
      have silent := (layers.findSome?_read_eq_none otherOrder decide?).mp other
      rw [(layers.findSome?_read_eq_none oneOrder decide?).mpr silent] at one
      contradiction
    | some otherDecision =>
      rw [uniform.eq_of_raced layers (layers.raced_of_findSome?_read one other)]

theorem exists_findSome?_read_of_raced [DecidableEq γ] {decide? : α → Option γ}
    (raced : layers.Raced decide? one other) :
    ∃ order, (layers.read order).findSome? decide? = some other := by
  rw [exists_findSome?_read_eq_some]
  rcases raced with ⟨_, first⟩ | ⟨silent, _, second⟩
  · exact .inl first
  · exact .inr ⟨silent, second⟩

def Leads (decide? : α → Option γ) (decision : γ) (groups : List β) : Prop :=
  ∃ before group after, groups = before ++ group :: after ∧
    (∀ earlier ∈ before, Silent decide? (layers.admitted earlier)) ∧
    Decides decide? decision (layers.admitted group)

section

variable {ι : Type} {scans : ι → α → Option γ} {decision : γ} {select : α → Bool}
  (selects : ∀ index row, scans index row = some decision → select row = true)
  (agrees : ∀ index row other, select row = true → scans index row = some other → other = decision)

theorem leads_of_findSome?_groups {order : LayeredOrder α β}
    (decided : ((order.groups.apply layers.groups).findSome? fun group =>
      (((order.members group).apply (layers.members group)).filter (layers.admits group)).findSome?
      decide?) = some decision) :
    layers.Leads decide? decision (order.groups.apply layers.groups) := by
  obtain ⟨before, group, after, split, groupDecides, earlierSilent⟩ :=
    findSome?_eq_some_iff.mp decided
  refine ⟨before, group, after, split, ?_, ?_⟩
  · intro earlier member row rowMember
    have silent := findSome?_eq_none_iff.mp (earlierSilent earlier member)
    exact silent row (by simpa [admitted] using rowMember)
  · obtain ⟨row, rowMember, rowDecides⟩ := exists_of_findSome?_eq groupDecides
    exact ⟨row, by simpa [admitted] using rowMember, rowDecides⟩

include selects agrees

theorem findSome?_front_of_decides (decides : Decides (scans index) decision rows) :
    ((Reordering.front select).apply rows).findSome? (scans index) = some decision := by
  obtain ⟨row, member, rowDecides⟩ := decides
  apply findSome?_front
  · intro other _ selected otherDecision otherDecides
    exact agrees index other otherDecision selected otherDecides
  · exact ⟨row, member, selects index row rowDecides, rowDecides⟩

theorem findSome?_front_admitted
    (decides : Decides (scans index) decision (layers.admitted group)) :
    (((Reordering.front select).apply (layers.members group)).filter
      (layers.admits group)).findSome? (scans index) = some decision := by
  obtain ⟨row, member, rowDecides⟩ := decides
  obtain ⟨stored, letThrough⟩ := layers.mem_admitted.mp member
  rw [findSome?_filter]
  apply findSome?_front
  · intro other _ selected otherDecision otherDecides
    split at otherDecides
    · exact agrees index other otherDecision selected otherDecides
    · contradiction
  · exact ⟨row, stored, selects index row rowDecides, by simp [letThrough, rowDecides]⟩

theorem findSome?_groups_of_leads {groups : List β}
    (leads : layers.Leads (scans index) decision groups) :
    (groups.findSome? fun group =>
      (((Reordering.front select).apply (layers.members group)).filter
        (layers.admits group)).findSome? (scans index)) = some decision := by
  obtain ⟨before, group, after, rfl, earlierSilent, groupDecides⟩ := leads
  have skipped : before.findSome? (fun group =>
      (((front select).apply (layers.members group)).filter
        (layers.admits group)).findSome? (scans index)) = none := by
    rw [findSome?_eq_none_iff]
    intro earlier earlierMember
    rw [findSome?_eq_none_iff]
    intro row rowMember
    exact earlierSilent earlier earlierMember row (by simpa [admitted] using rowMember)
  rw [findSome?_append, skipped, Option.none_or, findSome?_cons,
    layers.findSome?_front_admitted selects agrees groupDecides]

theorem exists_order_forall_iff [DecidableEq β] (indices : List ι) :
    (∃ order : LayeredOrder α β, ∀ index ∈ indices,
        (layers.read order).findSome? (scans index) = some decision) ↔
      ∃ groups : List β, groups.Perm layers.groups ∧ ∀ index ∈ indices,
        Decides (scans index) decision layers.first ∨
          Silent (scans index) layers.first ∧ layers.Leads (scans index) decision groups := by
  constructor
  · rintro ⟨order, decided⟩
    refine ⟨order.groups.apply layers.groups, order.groups.perm _, ?_⟩
    intro index member
    have scanned := decided index member
    rw [findSome?_read] at scanned
    cases own : (order.first.apply layers.first).findSome? (scans index) with
    | some other =>
      rw [own] at scanned
      have same : other = decision := by simpa using scanned
      exact .inl (same ▸ order.first.exists_of_findSome?_apply_eq own)
    | none =>
      rw [own] at scanned
      exact .inr ⟨(order.first.findSome?_apply_eq_none _ _).mp own,
        layers.leads_of_findSome?_groups scanned⟩
  · rintro ⟨groups, perm, decides⟩
    refine ⟨⟨.front select, .arranged layers.groups groups perm, fun _ => .front select⟩, ?_⟩
    intro index member
    rw [findSome?_read]
    rcases decides index member with first | ⟨silent, leads⟩
    · rw [findSome?_front_of_decides selects agrees first, Option.some_or]
    · rw [(findSome?_apply_eq_none _ _ _).mpr silent, apply_arranged]
      exact layers.findSome?_groups_of_leads selects agrees leads

end

end Layers

end ShadowPanel.Data
