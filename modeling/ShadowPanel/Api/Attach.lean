import ShadowPanel.Data.Runs
import ShadowPanel.Data.Wire

namespace ShadowPanel.Api.Attach

open Data List

/-! The history and the polls of a legacy attach session, of `internal/api/ws/attach/handler.go`.
The client takes every message. -/

structure Legacy where
  sent : List Bytes
  lastContent : Bytes

@[irreducible] def maxBytes : Nat := 65536

theorem maxBytes_pos : 0 < maxBytes := by
  unfold maxBytes
  decide

/-- `console` is what the console script printed, `none` without a script or when it failed;
`download` is `none` when the file cannot be downloaded. -/
def sendLegacyHistory (console download : Option Bytes) : Legacy :=
  let output := console.getD []
  if 0 < output.length then ⟨[output], output⟩
  else
    match download with
    | none => ⟨[], []⟩
    | some content =>
      let content :=
        if maxBytes < content.length then content.drop (content.length - maxBytes) else content
      ⟨if 0 < content.length then [content] else [], content⟩

def Legacy.diff (legacy : Legacy) (content : Bytes) : Bytes :=
  let last := legacy.lastContent
  if last.length < content.length ∧ content.take last.length = last then content.drop last.length
  else content

def Legacy.poll (legacy : Legacy) : Option Bytes → Legacy
  | none => legacy
  | some content =>
    if content = legacy.lastContent then legacy
    else
      let diff := legacy.diff content
      ⟨if diff ≠ [] then legacy.sent ++ [diff] else legacy.sent, content⟩

structure Tick where
  appended : Bytes
  fails : Bool

/-- A session beside the file; `read` is the file at the last download that succeeded. -/
structure Watched where
  file : Bytes
  read : Bytes
  legacy : Legacy

def Watched.tick (watched : Watched) (tick : Tick) : Watched :=
  let file := watched.file ++ tick.appended
  if tick.fails then { watched with file, legacy := watched.legacy.poll none }
  else ⟨file, file, watched.legacy.poll (some file)⟩

def attach (fails : Bool) (initial : Bytes) : Watched :=
  if fails then ⟨initial, [], sendLegacyHistory none none⟩
  else ⟨initial, initial, sendLegacyHistory none (some initial)⟩

def Watched.Streams (watched : Watched) : Prop :=
  watched.legacy.sent.flatten <:+ watched.read

structure Watched.Level (watched : Watched) : Prop where
  remembered : watched.legacy.lastContent = watched.read
  grown : watched.read <+: watched.file

theorem Legacy.poll_sends (legacy : Legacy) (changed : content ≠ legacy.lastContent) :
    (legacy.poll (some content)).sent.flatten = legacy.sent.flatten ++ legacy.diff content := by
  rw [poll, if_neg changed]
  by_cases empty : legacy.diff content = []
  · simp [empty]
  · simp [empty]

@[simp] theorem Legacy.poll_remembers (legacy : Legacy) (content : Bytes) :
    (legacy.poll (some content)).lastContent = content := by
  rw [poll]
  split
  · next same => exact same.symm
  · rfl

theorem Legacy.poll_grown (legacy : Legacy) (appended : Bytes) :
    (legacy.poll (some (legacy.lastContent ++ appended))).sent.flatten =
      legacy.sent.flatten ++ appended := by
  by_cases none : appended = []
  · simp [none, poll]
  · rw [legacy.poll_sends (by simpa using none), diff, if_pos]
    · rw [drop_left]
    · simp [length_pos_iff.mpr none]

theorem Watched.tick_level {watched : Watched} (level : watched.Level) (tick : Tick) :
    (watched.tick tick).Level ∧ ((watched.tick tick).Streams ↔ watched.Streams) := by
  obtain ⟨more, grown⟩ := level.grown
  unfold Watched.tick
  split
  · exact ⟨⟨level.remembered, level.grown.trans (prefix_append ..)⟩, Iff.rfl⟩
  · refine ⟨⟨Legacy.poll_remembers .., prefix_refl _⟩, ?_⟩
    have sent := watched.legacy.poll_grown (more ++ tick.appended)
    rw [level.remembered, ← append_assoc, grown] at sent
    rw [Streams, Streams, sent, ← grown, append_assoc]
    constructor
    · intro ⟨before, whole⟩
      exact ⟨before, append_cancel_right ((append_assoc ..).trans whole)⟩
    · intro ⟨before, whole⟩
      exact ⟨before, by rw [← whole, append_assoc]⟩

theorem Watched.run_level (level : watched.Level) (ticks : List Tick) :
    (run tick watched ticks).Streams ↔ watched.Streams := by
  induction ticks generalizing watched with
  | nil => exact Iff.rfl
  | cons tick rest ih =>
    obtain ⟨level, same⟩ := tick_level level tick
    exact (ih level).trans same

section

/-! A history that is cut remembers the cut text, which is no prefix of the file in general. -/

variable {initial : Bytes} (long : maxBytes < initial.length)
include long

theorem attach_long : sendLegacyHistory none (some initial) =
    ⟨[initial.drop (initial.length - maxBytes)], initial.drop (initial.length - maxBytes)⟩ := by
  have positive := maxBytes_pos
  have kept : 0 < initial.length - (initial.length - maxBytes) := by omega
  simp [sendLegacyHistory, long, kept]

theorem poll_long (appended : Bytes) :
    ((sendLegacyHistory none (some initial)).poll (some (initial ++ appended))).sent.flatten <:+
        initial ++ appended ↔
      initial.take maxBytes = initial.drop (initial.length - maxBytes) := by
  have cut : (initial.drop (initial.length - maxBytes)).length = maxBytes := by
    rw [length_drop]
    omega
  have taken : (initial ++ appended).take maxBytes = initial.take maxBytes :=
    take_append_of_le_length (Nat.le_of_lt long)
  have longer : maxBytes < (initial ++ appended).length := by
    rw [length_append]
    omega
  rw [attach_long long, Legacy.poll_sends _ (fun same => by rw [same, cut] at longer; omega),
    Legacy.diff, cut, taken]
  by_cases same : initial.take maxBytes = initial.drop (initial.length - maxBytes)
  · rw [if_pos ⟨longer, same⟩, ← same, ← taken]
    simp
  · rw [if_neg (fun both => same both.2)]
    refine iff_of_false (fun streams => ?_) same
    have short := streams.length_le
    have positive := maxBytes_pos
    rw [flatten_singleton, length_append, cut] at short
    omega

theorem run_long (grown : initial <+: file) (ticks : List Tick) :
    (run Watched.tick ⟨file, initial, sendLegacyHistory none (some initial)⟩ ticks).Streams ↔
      (∀ tick ∈ ticks, tick.fails) ∨
        initial.take maxBytes = initial.drop (initial.length - maxBytes) := by
  induction ticks generalizing file with
  | nil =>
    refine iff_of_true ?_ (.inl nofun)
    change (sendLegacyHistory none (some initial)).sent.flatten <:+ initial
    rw [attach_long long, flatten_singleton]
    exact drop_suffix ..
  | cons tick rest ih =>
    have later : initial <+: file ++ tick.appended := grown.trans (prefix_append ..)
    change (run Watched.tick (Watched.tick _ tick) rest).Streams ↔ _
    cases fails : tick.fails with
    | true =>
      rw [Watched.tick, if_pos fails, forall_mem_cons, and_iff_right fails]
      exact ih later
    | false =>
      rw [Watched.tick, if_neg (by simp [fails]), forall_mem_cons,
        Watched.run_level ⟨Legacy.poll_remembers .., prefix_refl _⟩]
      obtain ⟨appended, whole⟩ := later
      rw [← whole]
      simp only [fails, Bool.false_eq_true, false_and, false_or]
      exact poll_long long appended

end

theorem attach_streams_iff (fails : Bool) (initial : Bytes) (ticks : List Tick) :
    (run Watched.tick (attach fails initial) ticks).Streams ↔
      fails = true ∨ initial.length ≤ maxBytes ∨ (∀ tick ∈ ticks, tick.fails) ∨
        initial.take maxBytes = initial.drop (initial.length - maxBytes) := by
  cases fails with
  | true =>
    refine iff_of_true ((Watched.run_level ⟨rfl, nil_prefix⟩ ticks).mpr ?_) (.inl rfl)
    exact suffix_refl _
  | false =>
    by_cases long : maxBytes < initial.length
    · simpa [attach, Nat.not_le.mpr long] using run_long long (prefix_refl initial) ticks
    · refine iff_of_true ?_ (.inr (.inl (Nat.le_of_not_lt long)))
      have whole : sendLegacyHistory none (some initial) =
          ⟨if 0 < initial.length then [initial] else [], initial⟩ := by
        simp [sendLegacyHistory, long]
      rw [attach, if_neg (by simp), whole, Watched.run_level ⟨rfl, prefix_refl _⟩]
      change (if 0 < initial.length then [initial] else []).flatten <:+ initial
      split <;> simp

/-- A log of 65537 bytes that nothing is appended to is sent again whole by the first poll. -/
theorem attach_sends_twice :
    ¬ (run Watched.tick (attach false (1 :: replicate 65536 0)) [⟨[], false⟩]).Streams := by
  intro streams
  have length : (1 :: replicate 65536 (0 : UInt8)).length = maxBytes + 1 := by
    rw [length_cons, length_replicate, maxBytes]
  have same := ((run_long (by omega) (prefix_refl _) _).mp streams).resolve_left (by simp)
  have heads := congrArg head? same
  rw [length, Nat.add_sub_cancel_left, head?_take, if_neg (Nat.ne_of_gt maxBytes_pos)] at heads
  exact absurd (Option.some.inj heads) (by decide)

end ShadowPanel.Api.Attach
