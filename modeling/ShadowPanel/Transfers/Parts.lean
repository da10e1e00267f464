import Mathlib.Data.List.Basic
import ShadowPanel.Data.Wire

namespace ShadowPanel.Transfers

open Data List

/-! How `receiveAndStore` of `internal/grpc/filetransfer/service.go` cuts the chunks that it
receives into parts.  A storage keeps the bytes that it is given. -/

def initialPartSize : Nat := 1048576

def maxPartSize : Nat := 8388608

def doubled : Nat → Nat → Nat
  | 0, size => size
  | left + 1, size => if size < maxPartSize then doubled left (size * 2) else size

def partSizeForNum (partNum : Nat) : Nat := doubled partNum initialPartSize

theorem doubled_pos (left : Nat) (given : 0 < size) : 0 < doubled left size := by
  induction left generalizing size with
  | zero => exact given
  | succ left ih =>
    rw [doubled]
    split
    · exact ih (Nat.mul_pos given Nat.two_pos)
    · exact given

theorem partSizeForNum_pos (partNum : Nat) : 0 < partSizeForNum partNum :=
  doubled_pos partNum (by decide)

inductive ReceiveError where
  | storage (message : String)
  | canceled (message : String)
  | deadlineExceeded (message : String)
  | internal (message : String)

structure Received where
  totalWritten : Int64
  checksum : String
  partNum : Nat
  err : Option ReceiveError
  stored : Nat → Option Bytes

/-- The variables of the loop.  `hashed` is what the hasher has been given, and
`currentPartSize` is always `PartSizeForNum(partNum)`. -/
structure Receiving where
  buf : Bytes
  hashed : Bytes
  totalWritten : Int64
  partNum : Nat
  stored : Nat → Option Bytes

abbrev Progress := Except (Receiving × ReceiveError) Receiving

section

variable (write : Nat → Except String Unit)

def flushPart (data : Bytes) (state : Receiving) : Progress :=
  match write state.partNum with
  | .error cause =>
    .error (state, .storage
      ("write part " ++ toString state.partNum ++ " to storage: " ++ cause))
  | .ok _ =>
    .ok { state with
      hashed := state.hashed ++ data
      totalWritten := state.totalWritten + Int64.ofNat data.length
      partNum := state.partNum + 1
      stored := Function.update state.stored state.partNum (some data) }

def flushParts (state : Receiving) : Progress :=
  if partSizeForNum state.partNum ≤ state.buf.length then
    match flushPart write (state.buf.take (partSizeForNum state.partNum)) state with
    | .error failed => .error failed
    | .ok flushed =>
      flushParts { flushed with buf := state.buf.drop (partSizeForNum state.partNum) }
  else .ok state
termination_by state.buf.length
decreasing_by
  have some := partSizeForNum_pos state.partNum
  rw [length_drop]
  omega

/-- What the loop of `receiveAndStore` meets next: what `Recv` returns, or the end of the
context. -/
inductive Recv where
  | chunk (data : Bytes)
  | eof
  | failed (cause : String)
  | canceled

/-- Where the list ends nothing more comes, and the loop runs into its timeout. -/
def receiveChunks (transferID : String) : List Recv → Receiving → Progress
  | [], state =>
    .error (state, .deadlineExceeded ("chunk receive timeout after 1m0s (transfer " ++
      transferID ++ ", written " ++ toString state.totalWritten ++ ")"))
  | .canceled :: _, state =>
    .error (state, .canceled ("transfer canceled (transfer " ++ transferID ++
      ", written " ++ toString state.totalWritten ++ ")"))
  | .eof :: _, state => .ok state
  | .failed cause :: _, state => .error (state, .internal ("receive chunk: " ++ cause))
  | .chunk data :: rest, state =>
    if data.length = 0 then receiveChunks transferID rest state
    else
      match flushParts write { state with buf := state.buf ++ data } with
      | .error failed => .error failed
      | .ok flushed => receiveChunks transferID rest flushed

def receiveAll (transferID : String) (firstChunkData : Bytes) (results : List Recv)
    (stored : Nat → Option Bytes) : Progress :=
  match
    if 0 < firstChunkData.length then flushParts write ⟨firstChunkData, [], 0, 0, stored⟩
    else .ok ⟨[], [], 0, 0, stored⟩ with
  | .error failed => .error failed
  | .ok state =>
    match receiveChunks write transferID results state with
    | .error failed => .error failed
    | .ok state => if 0 < state.buf.length then flushPart write state.buf state else .ok state

def receiveAndStore (sha256 : Bytes → String) (transferID : String) (firstChunkData : Bytes)
    (results : List Recv) (stored : Nat → Option Bytes) : Received :=
  match receiveAll write transferID firstChunkData results stored with
  | .error (state, err) => ⟨state.totalWritten, "", state.partNum, some err, state.stored⟩
  | .ok state => ⟨state.totalWritten, sha256 state.hashed, state.partNum, none, state.stored⟩

end

def chunkData : List Recv → Bytes
  | .chunk data :: rest => data ++ chunkData rest
  | _ => []

structure PartsOf (data : Bytes) (parts : List Bytes) : Prop where
  whole : parts.flatten = data
  full : ∀ index part, parts[index]? = some part → index + 1 < parts.length →
    part.length = partSizeForNum index
  last : ∀ part, parts.getLast? = some part →
    part ≠ [] ∧ part.length ≤ partSizeForNum (parts.length - 1)

structure Flushed (stored : Nat → Option Bytes) (parts : List Bytes) (state : Receiving) :
    Prop where
  hashed : state.hashed = parts.flatten
  totalWritten : state.totalWritten = Int64.ofNat parts.flatten.length
  partNum : state.partNum = parts.length
  stored : ∀ index, state.stored index = parts[index]?.or (stored index)

def AllFull (parts : List Bytes) : Prop :=
  parts.map length = (range parts.length).map partSizeForNum

section

variable {write : Nat → Except String Unit} {stored : Nat → Option Bytes} {next : Receiving}

theorem Flushed.flushPart (flushed : Flushed stored parts state)
    (done : flushPart write part state = .ok next) :
    Flushed stored (parts ++ [part]) next ∧ next.buf = state.buf := by
  rw [Transfers.flushPart] at done
  split at done
  next => cases done
  next =>
    cases done
    refine ⟨⟨?_, ?_, ?_, ?_⟩, rfl⟩
    · rw [flushed.hashed, flatten_concat]
    · rw [flushed.totalWritten, flatten_concat, length_append, Int64.ofNat_add]
    · rw [flushed.partNum, length_append, length_singleton]
    · intro index
      dsimp only
      rw [flushed.partNum]
      by_cases same : index = parts.length
      · rw [same, Function.update_self, getElem?_concat_length, Option.some_or]
      · rw [Function.update_of_ne same, flushed.stored]
        rcases Nat.lt_or_gt_of_ne same with before | after
        · rw [getElem?_append_left before]
        · rw [getElem?_eq_none (Nat.le_of_lt after), getElem?_eq_none]
          rw [length_append]
          exact after

theorem Flushed.withBuf (flushed : Flushed stored parts state) (buf : Bytes) :
    Flushed stored parts { state with buf := buf } :=
  ⟨flushed.hashed, flushed.totalWritten, flushed.partNum, flushed.stored⟩

theorem allFull_concat_iff :
    AllFull (parts ++ [part]) ↔ AllFull parts ∧ part.length = partSizeForNum parts.length := by
  simp [AllFull, range_succ]

theorem flushParts_spec (flushed : Flushed stored parts state) (full : AllFull parts)
    (done : flushParts write state = .ok next) :
    ∃ more, Flushed stored (parts ++ more) next ∧ AllFull (parts ++ more) ∧
      more.flatten ++ next.buf = state.buf ∧
      next.buf.length < partSizeForNum (parts ++ more).length := by
  fun_induction flushParts write state generalizing parts with
  | case1 state fits received failed => cases done
  | case2 state fits after ended ih =>
    have length : (state.buf.take (partSizeForNum state.partNum)).length =
        partSizeForNum parts.length := by
      rw [length_take, Nat.min_eq_left fits, flushed.partNum]
    obtain ⟨more, last, allFull, whole, short⟩ := ih
      ((flushed.flushPart ended).1.withBuf _) (allFull_concat_iff.mpr ⟨full, length⟩) done
    rw [append_assoc, singleton_append] at last allFull short
    refine ⟨_, last, allFull, ?_, short⟩
    rw [flatten_cons, append_assoc, whole, take_append_drop]
  | case3 state short =>
    cases done
    rw [flushed.partNum, Nat.not_le] at short
    refine ⟨[], ?_⟩
    rw [append_nil]
    exact ⟨flushed, full, nil_append _, short⟩

theorem receiveChunks_spec (flushed : Flushed stored parts state) (full : AllFull parts)
    (whole : parts.flatten ++ state.buf = data)
    (short : state.buf.length < partSizeForNum parts.length)
    (done : receiveChunks write transferID results state = .ok next) :
    ∃ parts, Flushed stored parts next ∧ AllFull parts ∧
      parts.flatten ++ next.buf = data ++ chunkData results ∧
      next.buf.length < partSizeForNum parts.length := by
  fun_induction receiveChunks write transferID results state generalizing parts data with
  | case1 state => cases done
  | case2 rest state => cases done
  | case3 rest state =>
    cases done
    exact ⟨parts, flushed, full, by simp [whole, chunkData], short⟩
  | case4 cause rest state => cases done
  | case5 chunk rest state empty ih =>
    rw [eq_nil_of_length_eq_zero empty]
    exact ih flushed full whole short done
  | case6 chunk rest state some received failed => cases done
  | case7 chunk rest state some after ended ih =>
    obtain ⟨more, last, allFull, kept, short⟩ := flushParts_spec (flushed.withBuf _) full ended
    rw [chunkData, ← append_assoc]
    refine ih last allFull ?_ short done
    rw [flatten_append, append_assoc, kept, ← whole, append_assoc]

theorem AllFull.partsOf_concat (full : AllFull parts) (some : part ≠ [])
    (fits : part.length ≤ partSizeForNum parts.length) :
    PartsOf (parts.flatten ++ part) (parts ++ [part]) := by
  refine ⟨flatten_concat, ?_, ?_⟩
  · intro index other found before
    rw [length_append, length_singleton, Nat.add_lt_add_iff_right] at before
    rw [getElem?_append_left before] at found
    have length := congrArg (fun lengths => lengths[index]?) full
    rw [getElem?_map, getElem?_map, found, getElem?_range before] at length
    exact Option.some_inj.mp length
  · intro other found
    rw [getLast?_concat, Option.some_inj] at found
    rw [← found, length_append]
    exact ⟨some, fits⟩

theorem AllFull.partsOf (full : AllFull parts) : PartsOf parts.flatten parts := by
  rcases eq_nil_or_concat parts with rfl | ⟨parts, part, rfl⟩
  · exact ⟨rfl, by simp, by simp⟩
  · rw [concat_eq_append] at full ⊢
    obtain ⟨full, length⟩ := allFull_concat_iff.mp full
    rw [flatten_concat]
    refine full.partsOf_concat ?_ (Nat.le_of_eq length)
    rintro rfl
    exact absurd length (Nat.ne_of_lt (partSizeForNum_pos _))

theorem receiveAll_spec (done : receiveAll write transferID first results stored = .ok next) :
    ∃ parts, Flushed stored parts next ∧ PartsOf (first ++ chunkData results) parts := by
  have initial : ∀ buf, Flushed stored [] ⟨buf, [], 0, 0, stored⟩ :=
    fun _ => ⟨rfl, rfl, rfl, fun _ => rfl⟩
  rw [receiveAll] at done
  split at done
  next => cases done
  next begun started =>
    have taken : ∃ parts, Flushed stored parts begun ∧ AllFull parts ∧
        parts.flatten ++ begun.buf = first ∧ begun.buf.length < partSizeForNum parts.length := by
      split at started
      next => simpa using flushParts_spec (initial first) rfl started
      next empty =>
        cases started
        rw [Nat.not_lt, Nat.le_zero, length_eq_zero_iff] at empty
        exact ⟨[], initial [], rfl, empty.symm, partSizeForNum_pos 0⟩
    obtain ⟨parts, flushed, full, whole, short⟩ := taken
    split at done
    next => cases done
    next ended received =>
      obtain ⟨parts, flushed, full, whole, short⟩ :=
        receiveChunks_spec flushed full whole short received
      rw [← whole]
      split at done
      next some =>
        exact ⟨_, (flushed.flushPart done).1,
          full.partsOf_concat (ne_nil_of_length_pos some) (Nat.le_of_lt short)⟩
      next empty =>
        cases done
        rw [Nat.not_lt, Nat.le_zero, length_eq_zero_iff] at empty
        rw [empty, append_nil]
        exact ⟨parts, flushed, full.partsOf⟩

end

/-- After a success the storage has the data of all chunks, in parts of the sizes that belong
to their numbers, and what is returned is about all of it. -/
theorem receiveAndStore_stores (write : Nat → Except String Unit) (sha256 : Bytes → String)
    (transferID : String) (first : Bytes) (results : List Recv) (stored : Nat → Option Bytes)
    (succeeds : (receiveAndStore write sha256 transferID first results stored).err = none) :
    ∃ parts, PartsOf (first ++ chunkData results) parts ∧
      receiveAndStore write sha256 transferID first results stored =
        ⟨Int64.ofNat (first ++ chunkData results).length, sha256 (first ++ chunkData results),
          parts.length, none, fun index => parts[index]?.or (stored index)⟩ := by
  rw [receiveAndStore] at succeeds ⊢
  split at succeeds
  next => cases succeeds
  next state done =>
    obtain ⟨parts, flushed, parted⟩ := receiveAll_spec done
    refine ⟨parts, parted, ?_⟩
    rw [← parted.whole, ← flushed.partNum, ← funext flushed.stored,
      flushed.hashed, ← flushed.totalWritten]

theorem receiveAndStore_stores_three_bytes : ∃ parts, PartsOf [1, 2, 3] parts ∧
    receiveAndStore (fun _ => .ok ()) (fun _ => "checksum") "t1" [1, 2]
        [.chunk [], .chunk [3], .eof] (fun _ => none) =
      ⟨3, "checksum", parts.length, none, fun index => parts[index]?.or none⟩ :=
  receiveAndStore_stores (fun _ => .ok ()) (fun _ => "checksum") "t1" [1, 2]
    [.chunk [], .chunk [3], .eof] (fun _ => none)
    (by simp [receiveAndStore, receiveAll, receiveChunks, flushParts, flushPart, partSizeForNum,
      doubled, initialPartSize])

end ShadowPanel.Transfers
