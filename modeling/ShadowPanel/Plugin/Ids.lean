import ShadowPanel.Data.Texts

namespace ShadowPanel.Plugin

open Data

/-! The identifiers of plugins, of `pkg/plugin/id.go`.  Bytes are given as their count and the
number that they make, the highest byte first. -/

def idAlphabet : List Char := "abcdefghijklmnopqrstuvwxyz234567".toList

def digits32 : Nat → Nat → List Nat
  | 0, _ => []
  | count + 1, number => digits32 count (number / 32) ++ [number % 32]

def number32 (digits : List Nat) : Nat :=
  digits.foldl (fun number digit => number * 32 + digit) 0

def encodeToString (count bytes : Nat) : List Char :=
  let length := (8 * count + 4) / 5
  (digits32 length (bytes * 2 ^ (5 * length - 8 * count))).map (idAlphabet.getD · 'a')

/-- The bytes of so many characters.  One, three or six characters in the last group of eight
give none, and are no error. -/
def decodedLen (length : Nat) : Nat := length / 8 * 5 + [0, 0, 1, 0, 2, 3, 0, 4].getD (length % 8) 0

section

variable (text : List Char)

def decodeString : Option (Nat × Nat) :=
  ((text.filter fun char => char != '\r' && char != '\n').mapM (idAlphabet.idxOf? ·)).map
    fun digits =>
      let count := decodedLen digits.length
      (count, number32 digits / 2 ^ (5 * digits.length - 8 * count))

def parseUint : Option UInt64 :=
  let number := Nat.ofDigitChars 10 text 0
  if isNumeric text && number < 0x10000000000000000 then some (.ofNat number) else none

def fnv64a : UInt64 :=
  (text.flatMap String.utf8EncodeChar).foldl
    (fun hash byte => (hash ^^^ byte.toUInt64) * 1099511628211) 14695981039346656037

def parsePluginID : UInt64 :=
  match parseUint text with
  | some id => id
  | none =>
    match decodeString text with
    | some (count, bytes) => if count ≤ 8 then .ofNat bytes else fnv64a text
    | none => fnv64a text

def byteCount (id : Nat) : Nat → Nat
  | 0 => 1
  | more + 1 => if id < 256 ^ (more + 1) then byteCount id more else more + 2

def compactPluginID (id : UInt64) : List Char := encodeToString (byteCount id.toNat 7) id.toNat

def normalized : List Char := compactPluginID (parsePluginID text)

end

@[simp] theorem length_digits32 (count number : Nat) : (digits32 count number).length = count := by
  induction count generalizing number with
  | zero => rfl
  | succ count ih => rw [digits32, List.length_append, ih, List.length_singleton]

theorem digits32_lt : ∀ digit ∈ digits32 count number, digit < 32 := by
  induction count generalizing number with
  | zero => nofun
  | succ count ih =>
    intro digit member
    cases List.mem_append.mp member with
    | inl higher => exact ih digit higher
    | inr last => exact List.mem_singleton.mp last ▸ Nat.mod_lt _ (by decide)

private theorem number32_digits32 (count number : Nat) :
    number32 (digits32 count number) = number % 32 ^ count := by
  induction count generalizing number with
  | zero => exact (Nat.mod_one number).symm
  | succ count ih =>
    unfold number32 at ih ⊢
    rw [digits32, List.foldl_append, ih, Nat.pow_succ', Nat.mod_mul]
    exact Nat.add_comm .. ▸ Nat.mul_comm .. ▸ rfl

private theorem le_number32 (first : Nat) (rest : List Nat) :
    first * 32 ^ rest.length ≤ number32 (first :: rest) := by
  suffices ∀ number, number * 32 ^ rest.length ≤
      rest.foldl (fun number digit => number * 32 + digit) number by
    simpa [number32] using this first
  induction rest with
  | nil => intro number; simp
  | cons digit rest ih =>
    intro number
    refine Nat.le_trans ?_ (ih (number * 32 + digit))
    rw [List.length_cons, Nat.pow_succ', ← Nat.mul_assoc]
    exact Nat.mul_le_mul_right _ (Nat.le_add_right ..)

private theorem mapM_idAlphabet {digits : List Nat} (small : ∀ digit ∈ digits, digit < 32) :
    ((digits.map (idAlphabet.getD · 'a')).filter fun char => char != '\r' && char != '\n').mapM
      (idAlphabet.idxOf? ·) = some digits := by
  have read : ∀ digit < 32, (idAlphabet.getD digit 'a' != '\r' &&
      idAlphabet.getD digit 'a' != '\n') = true ∧
        idAlphabet.idxOf? (idAlphabet.getD digit 'a') = some digit := by decide
  induction digits with
  | nil => rfl
  | cons digit rest ih =>
    obtain ⟨kept, found⟩ := read digit (small digit List.mem_cons_self)
    have later := ih fun other member => small other (List.mem_cons_of_mem _ member)
    rw [List.map_cons, List.filter_cons, if_pos kept, List.mapM_cons, found, later]
    rfl

private theorem byteCount_bounds (more : Nat) {id : Nat} (fits : id < 256 ^ (more + 1)) :
    1 ≤ byteCount id more ∧ byteCount id more ≤ more + 1 ∧ id < 256 ^ byteCount id more := by
  induction more with
  | zero => exact ⟨Nat.le_refl 1, Nat.le_refl 1, fits⟩
  | succ more ih =>
    rw [byteCount]
    split
    · next small => exact ⟨(ih small).1, Nat.le_succ_of_le (ih small).2.1, (ih small).2.2⟩
    · exact ⟨Nat.le_add_left .., Nat.le_refl _, fits⟩

private theorem length_facts : ∀ count < 9, 1 ≤ count →
    let length := (8 * count + 4) / 5
    decodedLen length = count ∧ 8 * count ≤ 5 * length ∧ 1 ≤ length ∧ length ≤ 13 ∧
      10 ^ length * 2 ^ (5 * length - 8 * count) ≤ 26 * 32 ^ (length - 1) := by
  decide

section Compact

variable (id : UInt64)

structure Compacted (count length filled : Nat) : Prop where
  text : compactPluginID id = (digits32 length (id.toNat * filled)).map (idAlphabet.getD · 'a')
  number : number32 (digits32 length (id.toNat * filled)) = id.toNat * filled
  decoded : decodedLen length = count
  spare : 2 ^ (5 * length - 8 * count) = filled
  few : count ≤ 8
  short : 1 ≤ length ∧ length ≤ 13
  larger : 10 ^ length * filled ≤ 26 * 32 ^ (length - 1)

theorem compacted : ∃ count length filled, Compacted id count length filled := by
  obtain ⟨least, most, fits⟩ := byteCount_bounds 7 id.toNat_lt
  obtain ⟨decoded, enough, one, short, larger⟩ := length_facts _ (Nat.lt_succ_of_le most) least
  refine ⟨_, _, _, rfl, ?_, decoded, rfl, most, ⟨one, short⟩, larger⟩
  rw [number32_digits32]
  apply Nat.mod_eq_of_lt
  calc id.toNat * 2 ^ _ < 256 ^ _ * 2 ^ _ := Nat.mul_lt_mul_of_pos_right fits (Nat.two_pow_pos _)
    _ = 32 ^ _ := by
      rw [show 256 = 2 ^ 8 from rfl, show 32 = 2 ^ 5 from rfl, ← Nat.pow_mul, ← Nat.pow_mul,
        ← Nat.pow_add, Nat.add_sub_cancel' enough]

theorem decodeString_compact :
    ∃ count ≤ 8, decodeString (compactPluginID id) = some (count, id.toNat) := by
  obtain ⟨count, length, filled, compact⟩ := compacted id
  refine ⟨count, compact.few, ?_⟩
  rw [decodeString, compact.text, mapM_idAlphabet digits32_lt]
  simp only [Option.map_some, length_digits32, compact.decoded, compact.number, compact.spare]
  rw [Nat.mul_div_cancel _ (compact.spare ▸ Nat.two_pow_pos _)]

def Lettered : Prop := (compactPluginID id).all Char.isDigit = false

private theorem compactPluginID_injective : Function.Injective compactPluginID := by
  intro one other same
  obtain ⟨_, _, read⟩ := decodeString_compact one
  obtain ⟨_, _, otherRead⟩ := decodeString_compact other
  rw [same, otherRead] at read
  exact UInt64.toNat_inj.mp (Prod.mk.inj (Option.some.inj read)).2.symm

private theorem parse_of_lettered (lettered : Lettered id) :
    parsePluginID (compactPluginID id) = id := by
  obtain ⟨count, few, read⟩ := decodeString_compact id
  have text : parseUint (compactPluginID id) = none := by
    rw [parseUint, isNumeric, lettered, Bool.and_false]
    rfl
  simp [parsePluginID, text, read, few]

private theorem parse_of_digits (digits : (compactPluginID id).all Char.isDigit = true) :
    parsePluginID (compactPluginID id) ≠ id := by
  obtain ⟨count, length, filled, compact⟩ := compacted id
  have size : (compactPluginID id).length = length := by
    simp [compact.text]
  have below := ofDigitChars_lt_pow (List.all_eq_true.mp digits)
  rw [size] at below
  have above : 10 ^ length ≤ id.toNat := by
    cases written : digits32 length (id.toNat * filled) with
    | nil =>
      have none := length_digits32 length (id.toNat * filled)
      rw [written] at none
      exact absurd compact.short.1 (by simp [← none])
    | cons first rest =>
      have high : ∀ digit < 32, (idAlphabet.getD digit 'a').isDigit = true → 26 ≤ digit := by
        decide
      have least := high first (digits32_lt first (written ▸ List.mem_cons_self))
        (List.all_eq_true.mp digits _ (by rw [compact.text, written]; exact List.mem_cons_self))
      have few : rest.length = length - 1 := by
        rw [← length_digits32 length (id.toNat * filled), written]
        rfl
      have large := le_number32 first rest
      rw [← written, compact.number, few] at large
      apply Nat.le_of_mul_le_mul_right _ (compact.spare ▸ Nat.two_pow_pos _ : 0 < filled)
      exact compact.larger.trans ((Nat.mul_le_mul_right _ least).trans large)
  have small : 10 ^ length < 0x10000000000000000 :=
    Nat.lt_of_le_of_lt (Nat.pow_le_pow_right (by decide) compact.short.2) (by decide)
  have nonempty : (compactPluginID id).isEmpty = false := by
    rw [List.isEmpty_eq_false_iff, ← List.length_pos_iff, size]
    exact compact.short.1
  have text : parseUint (compactPluginID id) =
      some (.ofNat (Nat.ofDigitChars 10 (compactPluginID id) 0)) := by
    simp only [parseUint, isNumeric, nonempty, digits, below.trans small]
    rfl
  rw [parsePluginID, text]
  intro same
  have numbers := congrArg UInt64.toNat same
  rw [UInt64.toNat_ofNat_of_lt' (below.trans small)] at numbers
  omega

end Compact

private theorem parse_compact_iff (id : UInt64) :
    parsePluginID (compactPluginID id) = id ↔ Lettered id := by
  refine ⟨fun same => ?_, parse_of_lettered id⟩
  rw [Lettered, Bool.eq_false_iff]
  exact fun digits => parse_of_digits id digits same

/-- The compact forms are all different, but one that has digits only is read as a decimal
number, and so is not read back. -/
theorem pluginIDs_read_back_iff (id other : UInt64) (text : List Char) :
    (parsePluginID (compactPluginID id) = id ↔ Lettered id) ∧
      (compactPluginID id = compactPluginID other ↔ id = other) ∧
      (normalized (normalized text) = normalized text ↔ Lettered (parsePluginID text)) := by
  refine ⟨parse_compact_iff id, compactPluginID_injective.eq_iff, ?_⟩
  exact compactPluginID_injective.eq_iff.trans (parse_compact_iff (parsePluginID text))

theorem id_215_read_as_24 : compactPluginID 215 = "24".toList ∧
    parsePluginID (compactPluginID 215) = 24 ∧
    normalized (normalized "215".toList) ≠ normalized "215".toList := by
  decide +kernel

end ShadowPanel.Plugin
