import ShadowPanel.Data.Keyed

namespace ShadowPanel.Data

open List

universe u v

/-! Channels that are kept under keys until somebody takes them out, and the record of
what is sent on them and of their closings. -/

inductive ChannelEvent (Message : Type v) where
  | sent (channel : Nat) (message : Message)
  | closed (channel : Nat)

namespace ChannelEvent

variable {Message : Type v}

def isSent (channel : Nat) : ChannelEvent Message → Bool
  | .sent other _ => other == channel
  | .closed _ => false

def isClosed (channel : Nat) : ChannelEvent Message → Bool
  | .sent _ _ => false
  | .closed other => other == channel

end ChannelEvent

/-- `made` has the key of every channel that was ever made, at the channel's number. -/
structure ChannelTable (Key : Type u) (Message : Type v) where
  made : List Key
  entries : List (Key × Nat)
  log : List (ChannelEvent Message)

def SentWhileOpen {Message : Type v} (log : List (ChannelEvent Message)) : Prop :=
  log.Pairwise fun earlier later =>
    ∀ channel, earlier.isClosed channel = true → later.isSent channel = false

namespace ChannelTable

variable {Key : Type u} {Message : Type v}

def empty : ChannelTable Key Message := ⟨[], [], []⟩

variable [DecidableEq Key] (table : ChannelTable Key Message)

def lookup (key : Key) : Option Nat :=
  (table.entries.find? fun entry => entry.1 == key).map Prod.snd

def remove (key : Key) : ChannelTable Key Message :=
  { table with entries := table.entries.filter fun entry => entry.1 ≠ key }

def register (key : Key) : ChannelTable Key Message :=
  { table with
    made := table.made ++ [key]
    entries := assign Prod.fst (key, table.made.length) table.entries }

omit [DecidableEq Key] in
def send (channel : Nat) (message : Message) : ChannelTable Key Message :=
  { table with log := table.log ++ [.sent channel message] }

omit [DecidableEq Key] in
def close (channel : Nat) : ChannelTable Key Message :=
  { table with log := table.log ++ [.closed channel] }

omit [DecidableEq Key] in
def held (channel : Nat) : Nat := table.entries.countP fun entry => entry.2 == channel

omit [DecidableEq Key] in
def isMade (channel : Nat) : Bool := channel < table.made.length

variable {table}

omit [DecidableEq Key] in
theorem lt_of_isMade_pos (made : 0 < (table.isMade channel).toNat) :
    channel < table.made.length := by
  cases isMade : table.isMade channel with
  | true => exact of_decide_eq_true isMade
  | false => simp [isMade] at made

theorem mem_of_lookup (found : table.lookup key = some channel) :
    (key, channel) ∈ table.entries := by
  obtain ⟨entry, isFound, rfl⟩ := Option.map_eq_some_iff.mp found
  have own := find?_some isFound
  rw [beq_iff_eq] at own
  exact own ▸ mem_of_find?_eq_some isFound

theorem held_register (table : ChannelTable Key Message) (key : Key) (channel : Nat) :
    (table.register key).held channel + (table.isMade channel).toNat ≤
      table.held channel + ((table.register key).isMade channel).toNat := by
  have made : (table.isMade channel).toNat + (table.made.length == channel).toNat ≤
      ((table.register key).isMade channel).toNat := by
    unfold isMade register
    by_cases last : table.made.length = channel
    · simp [last]
    · by_cases earlier : channel < table.made.length
      · simp [earlier, beq_eq_false_iff_ne.mpr last, Nat.lt_succ_of_lt earlier]
      · simp [earlier, beq_eq_false_iff_ne.mpr last]
  refine Nat.le_trans ?_ (Nat.add_le_add_left made _)
  rw [Nat.add_comm (table.isMade channel).toNat, ← Nat.add_assoc]
  refine Nat.add_le_add_right ?_ _
  simp only [held, register, assign, countP_append, countP_singleton]
  have fewer : (table.entries.filter fun entry => entry.1 ≠ key).countP
      (fun entry => entry.2 == channel) ≤ table.entries.countP fun entry => entry.2 == channel :=
    filter_sublist.countP_le
  cases table.made.length == channel <;> simpa using fewer

theorem held_remove (table : ChannelTable Key Message) (key : Key) (channel : Nat) :
    (table.remove key).held channel + (table.lookup key == some channel).toNat ≤
      table.held channel := by
  simp only [held, remove, lookup, ne_eq]
  induction table.entries with
  | nil => simp
  | cons entry rest ih =>
    by_cases own : entry.1 = key
    · have later : (rest.filter fun entry => entry.1 ≠ key).countP
          (fun entry => entry.2 == channel) ≤ rest.countP fun entry => entry.2 == channel :=
        filter_sublist.countP_le
      simp only [filter_cons, find?_cons, own,
        BEq.rfl, Option.map_some, countP_cons, Option.some_beq_some]
      cases entry.2 == channel <;> simpa using later
    · simp only [filter_cons, find?_cons, own, not_false_eq_true, decide_true,
        beq_eq_false_iff_ne.mpr own, if_true, countP_cons]
      omega

end ChannelTable

section

variable {Message : Type v}

theorem countP_log_append (counted : ChannelEvent Message → Bool) (event : ChannelEvent Message) :
    (log ++ [event]).countP counted = log.countP counted + (counted event).toNat := by
  rw [countP_append, countP_singleton]
  cases counted event <;> rfl

theorem sentWhileOpen_closed (holds : SentWhileOpen log) :
    SentWhileOpen (log ++ [.closed channel]) := by
  refine pairwise_append.mpr ⟨holds, pairwise_singleton _ _, ?_⟩
  intro earlier _ later member
  rw [mem_singleton.mp member]
  exact fun _ _ => rfl

theorem sentWhileOpen_sent (holds : SentWhileOpen log)
    (unclosed : log.countP (ChannelEvent.isClosed channel) = 0) :
    SentWhileOpen (log ++ [.sent channel message]) := by
  refine pairwise_append.mpr ⟨holds, pairwise_singleton _ _, ?_⟩
  intro earlier earlierMember later member other closed
  rw [mem_singleton.mp member, ChannelEvent.isSent, beq_eq_false_iff_ne]
  intro same
  rw [same] at unclosed
  exact countP_eq_zero.mp unclosed earlier earlierMember closed

end

end ShadowPanel.Data
