import Mathlib.Data.List.DropRight
import Mathlib.Data.List.Sort
import ShadowPanel.Data.Wire

namespace ShadowPanel.Query

open Data List

/-! How `pkg/quercon/query/gamespy3.go` puts a split answer together. -/

structure GameSpy3Packet where
  packetID : Int
  data : Bytes

def findOverlapFrom (ending beginning : Bytes) : Nat → Nat
  | 0 => 0
  | i + 1 =>
    if ending.drop (ending.length - (i + 1)) = beginning.take (i + 1) then i + 1
    else findOverlapFrom ending beginning i

def findOverlap (ending beginning : Bytes) : Nat :=
  findOverlapFrom ending beginning (min ending.length beginning.length)

def addPacket : Bytes × Bytes → GameSpy3Packet → Bytes × Bytes
  | (result, prevEnding), packet =>
    if packet.data.length = 0 then (result, prevEnding)
    else
      let data :=
        if 0 < prevEnding.length then packet.data.drop (findOverlap prevEnding packet.data)
        else packet.data
      let result := result ++ data
      (result, if 50 < result.length then result.drop (result.length - 50) else result)

def cleanGameSpy3Packets : List GameSpy3Packet → Bytes
  | [] => []
  | [packet] => packet.data
  | packets => ((packets.insertionSort (·.packetID ≤ ·.packetID)).foldl addPacket ([], [])).1

def Overlaps (before data : Bytes) : Prop :=
  ∃ overlap ≠ [], overlap.length ≤ 50 ∧ overlap <:+ before ∧ overlap <+: data

def NoneOverlaps (before : Bytes) : List GameSpy3Packet → Prop
  | [] => True
  | packet :: packets =>
    ¬ Overlaps before packet.data ∧ NoneOverlaps (before ++ packet.data) packets

theorem findOverlapFrom_eq_zero_iff {count : Nat} :
    findOverlapFrom ending beginning count = 0 ↔ ∀ i < count,
      ending.drop (ending.length - (i + 1)) ≠ beginning.take (i + 1) := by
  induction count with
  | zero => simp [findOverlapFrom]
  | succ count ih =>
    rw [findOverlapFrom, Nat.forall_lt_succ_right, ← ih]
    split
    next same => simp [same]
    next other => simp [other]

theorem findOverlapFrom_le (ending beginning : Bytes) (count : Nat) :
    findOverlapFrom ending beginning count ≤ count := by
  induction count with
  | zero => exact Nat.le_refl 0
  | succ count ih =>
    rw [findOverlapFrom]
    split <;> omega

theorem findOverlap_eq_zero_iff :
    findOverlap (before.rtake 50) data = 0 ↔ ¬ Overlaps before data := by
  have ending : before.rtake 50 <:+ before := drop_suffix _ _
  have short : (before.rtake 50).length = min before.length 50 := by
    simp only [rtake, length_drop]
    omega
  rw [findOverlap, findOverlapFrom_eq_zero_iff, iff_not_comm]
  push Not
  constructor
  · rintro ⟨overlap, filled, size, ends, starts⟩
    obtain ⟨last, same⟩ := Nat.exists_eq_succ_of_ne_zero (mt length_eq_zero_iff.mp filled)
    have fits := ends.length_le
    have ends := suffix_of_suffix_length_le ends ending (by omega)
    have starting := starts.length_le
    refine ⟨last, by omega, ?_⟩
    rw [← Nat.succ_eq_add_one, ← same, ← suffix_iff_eq_drop.mp ends, ← prefix_iff_eq_take.mp starts]
  · rintro ⟨last, fits, same⟩
    refine ⟨data.take (last + 1), ?_, ?_, ?_, take_prefix _ _⟩
    · rw [ne_eq, take_eq_nil_iff]
      grind
    · rw [length_take]
      omega
    · rw [← same]
      exact (drop_suffix _ _).trans ending

theorem addPacket_rtake (result : Bytes) (packet : GameSpy3Packet) :
    let joined := result ++ packet.data.drop (findOverlap (result.rtake 50) packet.data)
    addPacket (result, result.rtake 50) packet = (joined, joined.rtake 50) := by
  have ending (joined : Bytes) :
      (if 50 < joined.length then joined.drop (joined.length - 50) else joined) =
        joined.rtake 50 := by
    split
    next => rfl
    next short => rw [rtake, Nat.sub_eq_zero_of_le (by omega), drop_zero]
  simp only [addPacket, ending]
  split
  next none => simp [length_eq_zero_iff.mp none]
  next =>
    split
    next => rfl
    next none =>
      rw [length_eq_zero_iff.mp (by omega : (result.rtake 50).length = 0), findOverlap]
      simp [findOverlapFrom]

theorem foldl_addPacket (packets : List GameSpy3Packet) (result : Bytes) :
    let final := (packets.foldl addPacket (result, result.rtake 50)).1
    let payload := result ++ packets.flatMap (·.data)
    final.length ≤ payload.length ∧ (final = payload ↔ NoneOverlaps result packets) := by
  induction packets generalizing result with
  | nil => simp [NoneOverlaps]
  | cons packet packets ih =>
    rw [foldl_cons, addPacket_rtake, NoneOverlaps, ← findOverlap_eq_zero_iff, flatMap_cons]
    cases overlap : findOverlap (result.rtake 50) packet.data with
    | zero => simpa using ih (result ++ packet.data)
    | succ last =>
      have room : last < packet.data.length := by
        have most := findOverlapFrom_le (result.rtake 50) packet.data
          (min (result.rtake 50).length packet.data.length)
        rw [← findOverlap, overlap] at most
        omega
      have shorter := (ih (result ++ packet.data.drop (last + 1))).1
      simp only [length_append, length_drop] at shorter ⊢
      refine ⟨by omega, iff_of_false (fun same => ?_) (by simp)⟩
      have lengths := congrArg length same
      simp only [length_append] at lengths
      omega

theorem cleanGameSpy3Packets_eq (packets : List GameSpy3Packet) : cleanGameSpy3Packets packets =
    ((packets.insertionSort (·.packetID ≤ ·.packetID)).foldl addPacket ([], [])).1 := by
  match packets with
  | [] => rfl
  | [packet] =>
    change packet.data = (addPacket ([], []) packet).1
    simp only [addPacket]
    split
    next none => exact length_eq_zero_iff.mp none
    next => rfl
  | _ :: _ :: _ => rfl

/-- The payload comes back exactly when no packet begins with what the payload before it ends
with: such bytes are taken for sent twice. -/
theorem cleanGameSpy3Packets_eq_iff {packets pieces : List GameSpy3Packet}
    (indexed : pieces.Pairwise (·.packetID < ·.packetID)) (received : packets ~ pieces) :
    cleanGameSpy3Packets packets = pieces.flatMap (·.data) ↔ NoneOverlaps [] pieces := by
  have sorted : packets.insertionSort (·.packetID ≤ ·.packetID) = pieces := by
    have : Std.Total fun first second : GameSpy3Packet => first.packetID ≤ second.packetID :=
      ⟨fun _ _ => Int.le_total _ _⟩
    have : IsTrans GameSpy3Packet (·.packetID ≤ ·.packetID) := ⟨fun _ _ _ => Int.le_trans⟩
    have same := (perm_insertionSort (·.packetID ≤ ·.packetID) packets).trans received
    refine same.eq_of_pairwise ?_ (pairwise_insertionSort _ packets) (indexed.imp Int.le_of_lt)
    intro first second member other before behind
    exact inj_on_of_nodup_map (pairwise_map.mpr (indexed.imp Int.ne_of_lt))
      (same.mem_iff.mp member) other (Int.le_antisymm before behind)
  rw [cleanGameSpy3Packets_eq, sorted]
  exact (foldl_addPacket pieces []).2

theorem cleanGameSpy3Packets_eq_reversed :
    cleanGameSpy3Packets [⟨1, [98, 0]⟩, ⟨0, [97, 0]⟩] = [97, 0, 98, 0] := by
  refine (cleanGameSpy3Packets_eq_iff (by decide) (Perm.swap ..)).mpr ?_
  simp only [NoneOverlaps, ← findOverlap_eq_zero_iff]
  decide

theorem repeated_byte_dropped :
    let pieces := [⟨0, [97, 0]⟩, ⟨1, [0, 98, 0]⟩]
    cleanGameSpy3Packets pieces = [97, 0, 98, 0] ∧
      pieces.flatMap GameSpy3Packet.data = [97, 0, 0, 98, 0] := by
  decide

end ShadowPanel.Query
