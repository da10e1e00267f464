import Mathlib.Data.List.Basic
import ShadowPanel.Data.Json

namespace ShadowPanel.Data

universe u v

/-- A way to write the values of a type as JSON that loses nothing. -/
structure JsonCodec (α : Type u) where
  encode : α → Json
  decode : Json → Option α
  decode_encode : ∀ value, decode (encode value) = some value

namespace JsonCodec

variable {α : Type u} {β : Type v}

def natural : JsonCodec Nat where
  encode value := .number (Nat.toDigits 10 value)
  decode
    | .number text => some (Nat.ofDigitChars 10 text 0)
    | _ => none
  decode_encode value := by simp [Nat.ofDigitChars_ten_toDigits]

def enumeration [DecidableEq α] (values : List α) (complete : ∀ value, value ∈ values) :
    JsonCodec α where
  encode value := natural.encode (values.idxOf value)
  decode item := (natural.decode item).bind fun place => values[place]?
  decode_encode value := by
    simp [natural.decode_encode, List.getElem?_idxOf (complete value)]

def text : JsonCodec String where
  encode value := .string value.toList
  decode
    | .string text => some (String.ofList text)
    | _ => none
  decode_encode value := by simp

def boolean : JsonCodec Bool where
  encode value := .bool value
  decode
    | .bool value => some value
    | _ => none
  decode_encode _ := rfl

def decodeItems (decode : Json → Option α) : List Json → Option (List α)
  | [] => some []
  | item :: rest =>
    match decode item, decodeItems decode rest with
    | some value, some values => some (value :: values)
    | _, _ => none

theorem decodeItems_map_encode (codec : JsonCodec α) (values : List α) :
    decodeItems codec.decode (values.map codec.encode) = some values := by
  induction values with
  | nil => rfl
  | cons value rest ih => simp [decodeItems, codec.decode_encode, ih]

/-- A missing list is written as null by some writers. -/
def list (codec : JsonCodec α) : JsonCodec (List α) where
  encode values := .array (values.map codec.encode)
  decode
    | .array items => decodeItems codec.decode items
    | .null => some []
    | _ => none
  decode_encode values := decodeItems_map_encode codec values

def optional (codec : JsonCodec α) : JsonCodec (Option α) where
  encode
    | none => .array []
    | some value => .array [codec.encode value]
  decode
    | .array [] => some none
    | .array [item] => (codec.decode item).map some
    | _ => none
  decode_encode value := by cases value <;> simp [codec.decode_encode]

def pair (left : JsonCodec α) (right : JsonCodec β) : JsonCodec (α × β) where
  encode value := .array [left.encode value.1, right.encode value.2]
  decode
    | .array [first, second] =>
      match left.decode first, right.decode second with
      | some value, some other => some (value, other)
      | _, _ => none
    | _ => none
  decode_encode value := by simp [left.decode_encode, right.decode_encode]

def through (codec : JsonCodec β) (forward : α → β) (back : β → α)
    (inverse : ∀ value, back (forward value) = value) : JsonCodec α where
  encode value := codec.encode (forward value)
  decode item := (codec.decode item).map back
  decode_encode value := by simp [codec.decode_encode, inverse]

def integer : JsonCodec Int :=
  (natural.pair natural).through (fun value => (value.toNat, (-value).toNat))
    (fun parts => parts.1 - parts.2) (by intro value; simp only; omega)

end JsonCodec

end ShadowPanel.Data
