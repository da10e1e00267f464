import Mathlib.Algebra.Group.Nat.Defs

namespace ShadowPanel.Data

open List

/-! The wire format of protocol buffers: numbers in groups of seven bits, the
lowest first, and texts after their length. -/

abbrev Bytes := List UInt8

inductive WireError where
  | intOverflow
  | unexpectedEOF
  | invalidLength
  | endGroup
  | illegalTag
  | wrongWireType

def encodeVarintFrom : Nat → Nat → Bytes
  | 0, number => [UInt8.ofNat number]
  | fuel + 1, number =>
    if number < 128 then [UInt8.ofNat number]
    else UInt8.ofNat (number % 128 + 128) :: encodeVarintFrom fuel (number / 128)

def encodeVarint (number : Nat) : Bytes := encodeVarintFrom 9 number

def decodeVarintFrom : Nat → Bytes → Except WireError (Nat × Bytes)
  | 0, _ => .error .intOverflow
  | _ + 1, [] => .error .unexpectedEOF
  | fuel + 1, byte :: rest =>
    if byte.toNat < 128 then .ok (byte.toNat, rest)
    else
      match decodeVarintFrom fuel rest with
      | .error err => .error err
      | .ok (higher, rest) => .ok (byte.toNat % 128 + 128 * higher, rest)

/-- The bits of the last group that do not fit are lost. -/
def decodeVarint (bytes : Bytes) : Except WireError (Nat × Bytes) :=
  match decodeVarintFrom 10 bytes with
  | .error err => .error err
  | .ok (number, rest) => .ok (number % 18446744073709551616, rest)

structure WireText where
  bytes : Bytes
  fits : bytes.length < 9223372036854775808

def WireText.empty : WireText where
  bytes := []
  fits := by decide

theorem WireText.eq_empty {text : WireText} (none : text.bytes = []) : text = .empty := by
  obtain ⟨bytes, fits⟩ := text
  subst none
  rfl

def encodeText (text : WireText) : Bytes := encodeVarint text.bytes.length ++ text.bytes

/-- A length that is negative as a signed number is refused. -/
def decodeText (bytes : Bytes) : Except WireError (WireText × Bytes) :=
  match decodeVarint bytes with
  | .error err => .error err
  | .ok (length, rest) =>
    if small : length < 9223372036854775808 then
      if rest.length < length then .error .unexpectedEOF
      else
        .ok (⟨rest.take length, Nat.lt_of_le_of_lt (length_take_le length rest) small⟩,
          rest.drop length)
    else .error .invalidLength

def decodeTag (bytes : Bytes) : Except WireError (Nat × Nat × Bytes) :=
  match decodeVarint bytes with
  | .error err => .error err
  | .ok (wire, rest) =>
    if wire % 8 = 4 then .error .endGroup
    else if wire / 8 % 4294967296 = 0 ∨ 2147483648 ≤ wire / 8 % 4294967296 then
      .error .illegalTag
    else .ok (wire / 8 % 4294967296, wire % 8, rest)

section

variable {Message : Type}

abbrev TakeField (Message : Type) :=
  Nat → Nat → Bytes → Message → Except WireError (Message × Bytes)

def decodeFields (take : TakeField Message) : Nat → Bytes → Message → Except WireError Message
  | _, [], message => .ok message
  | 0, _ :: _, _ => .error .unexpectedEOF
  | fuel + 1, byte :: bytes, message =>
    match decodeTag (byte :: bytes) with
    | .error err => .error err
    | .ok (number, wireType, rest) =>
      match take number wireType rest message with
      | .error err => .error err
      | .ok (message, rest) => decodeFields take fuel rest message

def unmarshal (take : TakeField Message) (message : Message) (bytes : Bytes) :
    Except WireError Message :=
  decodeFields take bytes.length bytes message

def takeText (set : WireText → Message) (wireType : Nat) (bytes : Bytes) :
    Except WireError (Message × Bytes) :=
  if wireType = 2 then
    match decodeText bytes with
    | .error err => .error err
    | .ok (text, rest) => .ok (set text, rest)
  else .error .wrongWireType

def takeNumber (set : Nat → Message) (wireType : Nat) (bytes : Bytes) :
    Except WireError (Message × Bytes) :=
  if wireType = 0 then
    match decodeVarint bytes with
    | .error err => .error err
    | .ok (number, rest) => .ok (set number, rest)
  else .error .wrongWireType

def textField (tag : UInt8) (text : WireText) : Bytes :=
  if text.bytes.isEmpty then [] else tag :: encodeText text

def numberField (tag : UInt8) (number : Nat) : Bytes :=
  if number = 0 then [] else tag :: encodeVarint number

end

theorem decodeVarintFrom_encode (fuel : Nat) (small : number < 128 ^ (fuel + 1)) (rest : Bytes) :
    decodeVarintFrom (fuel + 1) (encodeVarintFrom fuel number ++ rest) = .ok (number, rest) := by
  induction fuel generalizing number with
  | zero =>
    have byte : (UInt8.ofNat number).toNat = number := by
      rw [UInt8.toNat_ofNat']
      omega
    simp only [encodeVarintFrom, singleton_append, decodeVarintFrom, byte]
    exact if_pos (by omega)
  | succ fuel ih =>
    unfold encodeVarintFrom
    split
    next last =>
      have byte : (UInt8.ofNat number).toNat = number := by
        rw [UInt8.toNat_ofNat']
        omega
      simp only [singleton_append, decodeVarintFrom, byte]
      exact if_pos last
    next more =>
      have byte : (UInt8.ofNat (number % 128 + 128)).toNat = number % 128 + 128 := by
        rw [UInt8.toNat_ofNat']
        omega
      have higher : number / 128 < 128 ^ (fuel + 1) := by
        omega
      rw [cons_append, decodeVarintFrom, if_neg (by omega), ih higher]
      simp only [Except.ok.injEq, Prod.mk.injEq, and_true]
      omega

theorem decodeVarint_encodeVarint (small : number < 18446744073709551616) (rest : Bytes) :
    decodeVarint (encodeVarint number ++ rest) = .ok (number, rest) := by
  have bound : number < 128 ^ (9 + 1) := Nat.lt_trans small (by decide)
  simp only [decodeVarint, encodeVarint, decodeVarintFrom_encode 9 bound, Nat.mod_eq_of_lt small]

@[simp] theorem decodeText_encodeText (text : WireText) (rest : Bytes) :
    decodeText (encodeText text ++ rest) = .ok (text, rest) := by
  have small : text.bytes.length < 18446744073709551616 := Nat.lt_trans text.fits (by decide)
  simp only [decodeText, encodeText, append_assoc, decodeVarint_encodeVarint small]
  rw [dif_pos text.fits, if_neg (by simp)]
  simp only [take_left, drop_left]

theorem decodeTag_byte (small : tag.toNat < 128) (open_ : tag.toNat % 8 ≠ 4)
    (numbered : tag.toNat / 8 ≠ 0) (rest : Bytes) :
    decodeTag (tag :: rest) = .ok (tag.toNat / 8, tag.toNat % 8, rest) := by
  have whole : tag.toNat % 18446744073709551616 = tag.toNat := by omega
  have number : tag.toNat / 8 % 4294967296 = tag.toNat / 8 := by omega
  simp only [decodeTag, decodeVarint, decodeVarintFrom, if_pos small, whole, number]
  rw [if_neg open_, if_neg (by omega)]

section

variable {Message : Type} {take : TakeField Message} {next : Message}

def Decodes (take : TakeField Message) (bytes : Bytes) (message last : Message) : Prop :=
  ∀ fuel, bytes.length ≤ fuel → decodeFields take fuel bytes message = .ok last

theorem Decodes.unmarshal (decodes : Decodes take bytes message last) :
    unmarshal take message bytes = .ok last :=
  decodes bytes.length (Nat.le_refl _)

theorem Decodes.nil (same : message = last) : Decodes take [] message last := by
  subst same
  intro fuel _
  cases fuel <;> rfl

theorem Decodes.cons (small : tag.toNat < 128) (open_ : tag.toNat % 8 ≠ 4)
    (numbered : tag.toNat / 8 ≠ 0)
    (taken : take (tag.toNat / 8) (tag.toNat % 8) (body ++ rest) message = .ok (next, rest))
    (later : Decodes take rest next last) : Decodes take (tag :: (body ++ rest)) message last := by
  intro fuel enough
  cases fuel with
  | zero => cases enough
  | succ fuel =>
    have less : rest.length ≤ fuel := by
      rw [length_cons, length_append] at enough
      omega
    rw [decodeFields, decodeTag_byte small open_ numbered]
    simp only [taken]
    exact later fuel less

theorem Decodes.optionalText {set : WireText → Message} (small : tag.toNat < 128)
    (typed : tag.toNat % 8 = 2) (numbered : tag.toNat / 8 ≠ 0)
    (takes : ∀ bytes, take (tag.toNat / 8) 2 bytes message = takeText set 2 bytes)
    (later : Decodes take rest (if text.bytes = [] then message else set text) last) :
    Decodes take (textField tag text ++ rest) message last := by
  unfold textField
  split
  next none =>
    rw [if_pos (isEmpty_iff.mp none)] at later
    exact later
  next present =>
    rw [if_neg fun none => present (isEmpty_iff.mpr none)] at later
    refine Decodes.cons small (by omega) numbered ?_ later
    rw [typed, takes, takeText, if_pos rfl, decodeText_encodeText]

theorem Decodes.text {text : WireText} {set : WireText → Message} (small : tag.toNat < 128)
    (typed : tag.toNat % 8 = 2) (numbered : tag.toNat / 8 ≠ 0)
    (takes : ∀ bytes, take (tag.toNat / 8) 2 bytes message = takeText set 2 bytes)
    (unset : set .empty = message) (later : Decodes take rest (set text) last) :
    Decodes take (textField tag text ++ rest) message last := by
  refine Decodes.optionalText small typed numbered takes ?_
  split
  next none =>
    rw [WireText.eq_empty none, unset] at later
    exact later
  next => exact later

theorem Decodes.number {number : Nat} {set : Nat → Message}
    (bounded : number < 18446744073709551616) (small : tag.toNat < 128) (typed : tag.toNat % 8 = 0)
    (numbered : tag.toNat / 8 ≠ 0)
    (takes : ∀ bytes, take (tag.toNat / 8) 0 bytes message = takeNumber set 0 bytes)
    (unset : set 0 = message) (later : Decodes take rest (set number) last) :
    Decodes take (numberField tag number ++ rest) message last := by
  unfold numberField
  split
  next none =>
    rw [none, unset] at later
    exact later
  next present =>
    refine Decodes.cons small (by omega) numbered ?_ later
    rw [typed, takes, takeNumber, if_pos rfl, decodeVarint_encodeVarint bounded]

end

end ShadowPanel.Data
