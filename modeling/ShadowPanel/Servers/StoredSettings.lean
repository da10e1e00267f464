import Mathlib.Data.List.Basic
import ShadowPanel.Data.Texts
import ShadowPanel.Domain.Servers

namespace ShadowPanel.Servers

open Data Domain

/-! How a `ServerSettingValue` of `internal/domain/server_setting.go` is stored and read back. -/

inductive SettingType where
  | unknown
  | string
  | bool
  | int
  deriving DecidableEq

/-- The value beside its type, which `UnmarshalJSON` does not set. -/
structure SettingValue where
  value : AnyValue
  tp : SettingType

/-- What `strconv.ParseInt` takes for digits, of any base up to 36. -/
def digitOf (char : Char) : Nat :=
  if char.isDigit then char.toNat - 48
  else if char.isAlpha then char.toLower.toNat - 87
  else 36

/-- Underscores stand between digits only. -/
def underscoreOK : (afterDigit : Bool) → List Char → Bool
  | afterDigit, [] => afterDigit
  | afterDigit, char :: rest =>
    if char = '_' then afterDigit && underscoreOK false rest else underscoreOK true rest

def parseDigits (base : Nat) (marked : Bool) (text digits : List Char) : Option Nat :=
  let plain := digits.filter (· != '_')
  if plain.all (digitOf · < base) && (!digits.contains '_' || underscoreOK marked text) then
    some (plain.foldl (fun number char => number * base + digitOf char) 0)
  else none

/-- `ParseUint` with the base 0, which the beginning of the text gives. -/
def parseUint0 (text : List Char) : Option Nat :=
  match text with
  | [] => none
  | '0' :: mark :: first :: rest =>
    if mark.toLower = 'b' then parseDigits 2 true (first :: rest) (first :: rest)
    else if mark.toLower = 'o' then parseDigits 8 true (first :: rest) (first :: rest)
    else if mark.toLower = 'x' then parseDigits 16 true (first :: rest) (first :: rest)
    else parseDigits 8 false text (mark :: first :: rest)
  | '0' :: digits => parseDigits 8 false text digits
  | digits => parseDigits 10 false text digits

def parseInt0 (text : List Char) : Option Int :=
  let signed (negative : Bool) (digits : List Char) : Option Int :=
    (parseUint0 digits).bind fun number =>
      if negative then if number ≤ 0x8000000000000000 then some (-number) else none
      else if number < 0x8000000000000000 then some number
      else none
  match text with
  | '-' :: digits => signed true digits
  | '+' :: digits => signed false digits
  | digits => signed false digits

def record : ServerSettingValue → SettingValue
  | .string value => ⟨.string value, .string⟩
  | .bool value => ⟨.bool value, .bool⟩
  | .int value => ⟨.number value, .int⟩
  | .unknown => ⟨.null, .unknown⟩

namespace SettingValue

/-- `String`. -/
def text : SettingValue → Option String
  | ⟨.string value, .string⟩ => some value
  | ⟨.number value, .int⟩ => some (toString value)
  | ⟨.bool value, .bool⟩ => some (toString value)
  | _ => none

/-- `Value`. -/
def column (setting : SettingValue) : Option String :=
  if setting.value = .null then none else some (setting.text.getD "")

def marshalJSON (setting : SettingValue) : AnyValue :=
  if setting.tp = .unknown then .null else setting.value

/-- A null is read as the empty string. -/
def unmarshalJSON (json : AnyValue) : SettingValue where
  value := if json = .null then .string "" else json
  tp := .unknown

/-- `Scan` of what the driver gives as a string. -/
def scanString : Option String → SettingValue
  | none => ⟨.null, .string⟩
  | some text => ⟨.string text, .string⟩

/-- `Scan` of what the driver gives as bytes. -/
def scanBytes : Option String → SettingValue
  | none => ⟨.null, .string⟩
  | some text =>
    if text = "true" then ⟨.bool true, .bool⟩
    else if text = "false" then ⟨.bool false, .bool⟩
    else if text = "null" then ⟨.null, .unknown⟩
    else
      match parseInt0 text.toList with
      | some number => ⟨.number number, .int⟩
      | none => ⟨.string text, .string⟩

end SettingValue

inductive Way where
  | string
  | bytes
  | json

open SettingValue in
def Preserves (setting : SettingValue) : Way → Prop
  | .string => (scanString setting.column).text = setting.text
  | .bytes => (scanBytes setting.column).text = setting.text
  | .json =>
    let read := unmarshalJSON setting.marshalJSON
    read.text = setting.text ∧ read.column = setting.column ∧
      read.marshalJSON = setting.marshalJSON

/-- A whole number as it is printed: no plus, no leading zeros, no negative zero. -/
def isDecimal : List Char → Bool
  | '-' :: digits => digits ≠ ['0'] && isNumeral digits
  | digits => isNumeral digits

/-- The text is not taken for a null, nor for a number, unless it is written as numbers
are printed. -/
def Survives (text : String) : Prop :=
  text ≠ "null" ∧ (parseInt0 text.toList = none ∨ isDecimal text.toList = true)

instance (text : String) : Decidable (Survives text) := inferInstanceAs (Decidable (_ ∧ _))

theorem toList_toString (number : Int) :
    (toString number).toList =
      if 0 ≤ number then Nat.toDigits 10 number.toNat
      else '-' :: Nat.toDigits 10 (-number).toNat := by
  rw [Int.toString_eq_repr, Int.repr_eq_if]
  split <;> simp [Nat.repr_eq_ofList_toDigits]

theorem isDecimal_of_isNumeral (numeral : isNumeral digits = true) : isDecimal digits = true := by
  unfold isDecimal
  split
  · cases numeral
  · exact numeral

theorem isDecimal_toString (number : Int) : isDecimal (toString number).toList = true := by
  rw [toList_toString]
  split
  · exact isDecimal_of_isNumeral (isNumeral_toDigits _)
  next negative =>
    have nonzero : Nat.toDigits 10 (-number).toNat ≠ ['0'] := by
      intro zero
      have value := congrArg (Nat.ofDigitChars 10 · 0) zero
      simp only [Nat.ofDigitChars_ten_toDigits] at value
      have : (-number).toNat = 0 := value
      omega
    simp [isDecimal, nonzero]

theorem survives_toString (number : Int) : Survives (toString number) := by
  refine ⟨?_, .inr (isDecimal_toString number)⟩
  intro same
  have decimal := isDecimal_toString number
  rw [same] at decimal
  cases decimal

theorem parseDigits_ten {digits : List Char} (all : ∀ char ∈ digits, char.isDigit = true) :
    parseDigits 10 false digits digits = some (Nat.ofDigitChars 10 digits 0) := by
  have value : ∀ char ∈ digits, digitOf char = char.toNat - 48 :=
    fun char member => if_pos (all char member)
  have none : '_' ∉ digits := fun member => nomatch all '_' member
  have plain : digits.filter (· != '_') = digits := by
    rw [List.filter_eq_self]
    intro char member
    exact bne_iff_ne.mpr fun same => none (same ▸ member)
  have small : digits.all (digitOf · < 10) = true := by
    rw [List.all_eq_true]
    intro char member
    have bounds := toNat_of_isDigit (all char member)
    rw [value char member, decide_eq_true_eq]
    omega
  simp only [parseDigits, plain, small, List.contains_eq_mem, none, decide_false, Bool.not_false,
    Bool.true_or, Bool.and_true, if_true, Nat.ofDigitChars_eq_foldl, Option.some.injEq]
  refine List.foldl_ext _ _ _ fun number char member => ?_
  rw [value char member, Nat.mul_comm]
  rfl

theorem parseUint0_of_isNumeral {digits : List Char} (numeral : isNumeral digits = true) :
    parseUint0 digits = some (Nat.ofDigitChars 10 digits 0) := by
  cases digits with
  | nil => cases numeral
  | cons first rest =>
    simp only [isNumeral] at numeral
    split at numeral
    next zero =>
      rw [List.isEmpty_iff.mp numeral, zero]
      rfl
    next nonzero =>
      have all : ∀ char ∈ first :: rest, char.isDigit = true := by
        simpa using numeral
      rw [← parseDigits_ten all]
      unfold parseUint0
      split
      next same => cases same
      next same => cases same; contradiction
      next same => cases same; contradiction
      next => rfl

theorem toList_toString_of_isDecimal {text : List Char} (decimal : isDecimal text = true)
    (read : parseInt0 text = some number) : (toString number).toList = text := by
  unfold isDecimal at decimal
  rw [toList_toString]
  split at decimal
  next digits =>
    obtain ⟨nonzero, numeral⟩ : digits ≠ ['0'] ∧ isNumeral digits = true := by
      simpa using decimal
    have printed := toDigits_of_isNumeral numeral
    simp only [parseInt0, parseUint0_of_isNumeral numeral, Option.bind_some, if_true] at read
    split at read
    · cases read
      have positive : Nat.ofDigitChars 10 digits 0 ≠ 0 := by
        intro zero
        rw [zero] at printed
        exact nonzero printed.symm
      rw [if_neg (by omega), Int.neg_neg, Int.toNat_natCast, printed]
    · cases read
  next digits unsigned =>
    have numeral : isNumeral text = true := decimal
    have printed := toDigits_of_isNumeral numeral
    unfold parseInt0 at read
    split at read
    next => exact absurd rfl (unsigned _)
    next => cases numeral
    next =>
      simp only [parseUint0_of_isNumeral numeral, Option.bind_some, Bool.false_eq_true,
        if_false] at read
      split at read
      · cases read
        rw [if_pos (by omega), Int.toNat_natCast, printed]
      · cases read

theorem toString_eq_iff_isDecimal {text : String} {number : Int}
    (read : parseInt0 text.toList = some number) :
    toString number = text ↔ isDecimal text.toList = true := by
  constructor
  · rintro rfl
    exact isDecimal_toString number
  · intro decimal
    exact String.toList_inj.mp (toList_toString_of_isDecimal decimal read)

theorem text_scanBytes_iff (text : String) :
    (SettingValue.scanBytes (some text)).text = some text ↔ Survives text := by
  have words : Survives "true" ∧ Survives "false" := by decide
  simp only [SettingValue.scanBytes]
  split
  next same => exact same ▸ iff_of_true rfl words.1
  next =>
    split
    next same => exact same ▸ iff_of_true rfl words.2
    next =>
      split
      next same => exact iff_of_false nofun (fun survives => survives.1 same)
      next other =>
        rw [Survives, and_iff_right other]
        cases read : parseInt0 text.toList with
        | none => exact iff_of_true rfl (.inl rfl)
        | some number =>
          simp only [SettingValue.text, Option.some.injEq, toString_eq_iff_isDecimal read,
            reduceCtorEq, false_or]

theorem preserves_int (number : Int) : Preserves (record (.int number)) .bytes :=
  (text_scanBytes_iff _).mpr (survives_toString number)

@[simp]
theorem text_unmarshalJSON (json : AnyValue) : (SettingValue.unmarshalJSON json).text = none := by
  cases json <;> rfl

/-- A value is read back as it was from a string, from bytes when its text survives, and never
from JSON. -/
theorem setting_preserved_iff (value : AnyValue) (text : String)
    (built : (record (newServerSettingValue value)).text = some text) (way : Way) :
    Preserves (record (newServerSettingValue value)) way ↔
      way = .string ∨ way = .bytes ∧ Survives text := by
  have column : (record (newServerSettingValue value)).column = some text := by
    cases value with
    | null => cases built
    | _ => exact built
  cases way with
  | string =>
    rw [Preserves, column, built]
    exact iff_of_true rfl (.inl rfl)
  | bytes =>
    rw [Preserves, column, built, text_scanBytes_iff]
    simp
  | json =>
    apply iff_of_false
    · intro same
      have lost := same.1
      rw [text_unmarshalJSON, built] at lost
      cases lost
    · simp

theorem setting_preserved_iff_name :
    Preserves (record (newServerSettingValue (.string "de_dust2"))) .bytes ↔
      Way.bytes = .string ∨ Way.bytes = .bytes ∧ Survives "de_dust2" :=
  setting_preserved_iff (.string "de_dust2") _ rfl _

theorem setting_lost : ¬Preserves (record (newServerSettingValue (.string "0x10"))) .bytes ∧
    ¬Preserves (record (newServerSettingValue (.bool true))) .json := by
  constructor
  · intro same
    have printed : (SettingValue.scanBytes (some "0x10")).text = some "16" := by decide
    exact absurd (printed.symm.trans same) (by decide)
  · exact fun same => nomatch same.1

end ShadowPanel.Servers
