import ShadowPanel.Data.Wire

namespace ShadowPanel.Daemon

open Data

/-! The messages of `internal/daemon/binnapi`, as far as the requests for files read them. -/

inductive Width where
  | native
  | bits8
  | bits16
  | bits32
  | bits64

inductive BinnValue where
  | null
  | unsigned (width : Width) (value : Nat)
  | signed (width : Width) (value : Int)
  | bool (value : Bool)
  | text (value : String)
  | list (items : List BinnValue)

def invalidBINNValue (details : String) : String := "invalid BINN value: " ++ details

def withMessage (text cause : String) : String := text ++ ": " ++ cause

def convertToCode : BinnValue → Except String Nat
  | .unsigned .bits8 value => .ok value
  | .signed .bits8 value =>
    if value < 0 then .error (invalidBINNValue "cannot convert negative int8 to uint8 code")
    else .ok value.toNat
  | _ => .error (invalidBINNValue "cannot convert to uint8 code")

def convertToUint64 : BinnValue → Except String Nat
  | .unsigned _ value => .ok value
  | .signed _ value =>
    if value < 0 then .error (invalidBINNValue "cannot convert negative int to uint64")
    else .ok value.toNat
  | _ => .error (invalidBINNValue "cannot convert to uint64")

def createFileSize (size : BinnValue) : Except String Nat :=
  (convertToUint64 size).mapError (withMessage "invalid file size")

def statusCodeOK : Nat := 100

def statusCodeReadyToTransfer : Nat := 101

structure BaseResponseMessage where
  data : BinnValue
  info : String
  code : Nat

namespace BaseResponseMessage

def zero : BaseResponseMessage := ⟨.null, "", 0⟩

def codeOf : BinnValue → Option Nat
  | .unsigned .bits8 value => some value
  | .unsigned .bits16 value => if 255 < value then none else some value
  | .unsigned .bits32 value => if 255 < value then none else some value
  | _ => none

/-- `FillFromSlice`: a response without data leaves the data that was there before. -/
def fillFromSlice (response : BaseResponseMessage) :
    List BinnValue → Except String BaseResponseMessage
  | first :: .text info :: rest =>
    match codeOf first with
    | some code => .ok ⟨rest.head?.getD response.data, info, code⟩
    | none => .error "unknown binn value"
  | _ => .error "unknown binn value"

def announcedSize (values : List BinnValue) : Nat :=
  match zero.fillFromSlice values with
  | .error _ => 0
  | .ok response =>
    if response.code = statusCodeReadyToTransfer then
      match createFileSize response.data with
      | .ok size => size
      | .error _ => 0
    else 0

theorem announcedSize_le {previous : BaseResponseMessage}
    (filled : previous.fillFromSlice values = .ok response)
    (sized : createFileSize response.data = .ok size) : announcedSize values ≤ size := by
  match values, filled with
  | first :: .text info :: rest, filled =>
    rw [announcedSize, fillFromSlice]
    rw [fillFromSlice] at filled
    cases found : codeOf first with
    | none => exact Nat.zero_le _
    | some code =>
      rw [found] at filled
      cases filled
      cases rest with
      | cons data rest =>
        have same : createFileSize data = .ok size := sized
        simp only [List.head?_cons, Option.getD_some, same]
        split
        · exact Nat.le_refl _
        · exact Nat.zero_le _
      | nil =>
        have none : createFileSize .null =
          .error (withMessage "invalid file size"
            (invalidBINNValue "cannot convert to uint64")) := rfl
        simp only [List.head?_nil, Option.getD_none, zero, none]
        split <;> exact Nat.zero_le _

end BaseResponseMessage

structure FileInfo where
  name : String
  size : Nat
  timeModified : Nat
  type : Nat
  perm : Nat

structure FileDetails where
  name : String
  mime : String
  size : Nat
  modificationTime : Nat
  accessTime : Nat
  createTime : Nat
  perm : Nat
  type : Nat

def textOf (error : String) : BinnValue → Except String String
  | .text value => .ok value
  | _ => .error (invalidBINNValue error)

def uint64Of (error : String) (value : BinnValue) : Except String Nat :=
  (convertToUint64 value).mapError fun _ => invalidBINNValue error

def permOf (value : BinnValue) : Except String Nat := do
  let perm ← uint64Of "invalid permissions" value
  if 0xFFFFFFFF < perm then throw (invalidBINNValue "permissions value too large")
  pure perm

def parseFileInfoResponseMessageFromArray : List BinnValue → Except String FileInfo
  | name :: size :: timeModified :: type :: perm :: _ => do
      let name ← textOf "name must be string" name
      let size ← (convertToUint64 size).mapError (withMessage "invalid size")
      let timeModified ← uint64Of "invalid time modified" timeModified
      let type ← convertToCode type
      let perm ← permOf perm
      pure ⟨name, size, timeModified, type, perm⟩
  | _ => .error (invalidBINNValue "file info response requires at least 5 fields")

def fileInfoOf : BinnValue → Except String FileInfo
  | .list fields =>
    (parseFileInfoResponseMessageFromArray fields).mapError
      (withMessage "failed to parse file info")
  | _ => .error "invalid file info format"

def parseFileDetailsResponseMessageFromArray : List BinnValue → Except String FileDetails
  | name :: size :: type :: modificationTime :: accessTime :: createTime :: perm :: mime :: _ => do
      let name ← textOf "name must be string" name
      let size ← (convertToUint64 size).mapError (withMessage "invalid size")
      let type ← convertToCode type
      let modificationTime ← uint64Of "invalid modification time" modificationTime
      let accessTime ← uint64Of "invalid access time" accessTime
      let createTime ← uint64Of "invalid create time" createTime
      let perm ← permOf perm
      let mime ← textOf "mime must be string" mime
      pure ⟨name, mime, size, modificationTime, accessTime, createTime, perm, type⟩
  | _ => .error (invalidBINNValue "file details response requires at least 8 fields")

def createFileDetailsResponseMessage : BinnValue → Except String FileDetails
  | .list fields => parseFileDetailsResponseMessageFromArray fields
  | _ => .error (invalidBINNValue "file details response data must be array")

/-- The decoder of the library: nothing as long as it needs more bytes, and otherwise the
values or its error, with the number of bytes that it has read. -/
structure Binn where
  decode : Bytes → Option (Except String (List BinnValue) × Nat)
  /-- What follows a value is not looked at. -/
  decode_append : ∀ bytes more result, decode bytes = some result →
    decode (bytes ++ more) = some result
  decode_le : ∀ bytes result used, decode bytes = some (result, used) → used ≤ bytes.length

/-- The items of a list: numbers of 8 bits and empty texts. -/
def decodeItems : Nat → Bytes → Except String (List BinnValue)
  | 0, [] => .ok []
  | count + 1, 0x20 :: number :: rest => do
      let items ← decodeItems count rest
      pure (.unsigned .bits8 number.toNat :: items)
  | count + 1, 0xA0 :: 0 :: 0 :: rest => do
      let items ← decodeItems count rest
      pure (.text "" :: items)
  | _, _ => .error "unknown binn value"

/-- A decoder for lists of less than 128 bytes: their type, the size of the whole, the
number of items, and the items. -/
def listBinn : Binn where
  decode
    | 0xE0 :: size :: count :: rest =>
      if rest.length + 3 < size.toNat then none
      else if size.toNat < 3 ∨ 127 < size.toNat then some (.error "invalid size", 3)
      else some (decodeItems count.toNat (rest.take (size.toNat - 3)), size.toNat)
    | _ => none
  decode_append := by
    intro bytes more result decoded
    split at decoded
    next size count rest =>
      have arrived : ¬rest.length + 3 < size.toNat := fun short => by simp [short] at decoded
      have same : (rest ++ more).take (size.toNat - 3) = rest.take (size.toNat - 3) :=
        List.take_append_of_le_length (by omega)
      have later : ¬(rest ++ more).length + 3 < size.toNat := by
        rw [List.length_append]
        omega
      simp only [List.cons_append, if_neg arrived, if_neg later, same] at decoded ⊢
      exact decoded
    · cases decoded
  decode_le := by
    intro bytes result used decoded
    split at decoded
    next size count rest =>
      simp only [List.length_cons]
      split at decoded
      · cases decoded
      · split at decoded <;> cases decoded <;> omega
    · cases decoded

/-- A response that is complete: the decoder reads all of it and not more. -/
structure Response (binn : Binn) where
  bytes : Bytes
  values : List BinnValue
  complete : binn.decode bytes = some (.ok values, bytes.length)

namespace Response

variable (response : Response binn)

@[simp] theorem decode_append (more : Bytes) :
    binn.decode (response.bytes ++ more) = some (.ok response.values, response.bytes.length) :=
  binn.decode_append _ _ _ response.complete

theorem decode_take
    (decoded : binn.decode ((response.bytes ++ more).take arrived) = some (result, used)) :
    result = .ok response.values ∧ used = response.bytes.length := by
  have whole := binn.decode_append _ ((response.bytes ++ more).drop arrived) _ decoded
  rw [List.take_append_drop, response.decode_append] at whole
  cases whole
  exact ⟨rfl, rfl⟩

end Response

def daemonBinnEndBytes : Bytes := [0xFF, 0xFF, 0xFF, 0xFF]

end ShadowPanel.Daemon
