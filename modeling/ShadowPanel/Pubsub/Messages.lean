import ShadowPanel.Data.Texts

namespace ShadowPanel.Pubsub

open Data

/-! The messages of `internal/pubsub`, by the number of bytes that `encoding/json`
writes of them, and the drivers of the container that publish them. -/

def charSize (character : Char) : Nat :=
  if character ∈ ['"', '\\', Char.ofNat 8, Char.ofNat 12, '\n', '\r', '\t'] then 2
  else if character.toNat < 0x20 then 6
  -- these are escaped for the sake of HTML and of JavaScript
  else if character ∈ ['<', '>', '&', Char.ofNat 0x2028, Char.ofNat 0x2029] then 6
  else character.utf8Size

def textSize (text : String) : Nat := total charSize text.toList + 2

/-- A slice of bytes is written as a text in base64. -/
def bytesSize (length : Nat) : Nat := (length + 2) / 3 * 4 + 2

def recordSize (fields : List (String × Nat)) : Nat :=
  total (fun (name, value) => textSize name + 1 + value) fields + (fields.length - 1) + 2

def optionalText (name text : String) : List (String × Nat) :=
  if text = "" then [] else [(name, textSize text)]

def optionalBytes (name : String) (length : Nat) : List (String × Nat) :=
  if length = 0 then [] else [(name, bytesSize length)]

/-- The time is the text that is written of it, and the payload counts its bytes. -/
structure Message where
  id : String
  channel : String
  type : String
  payload : Nat
  timestamp : String
  source : String

def Message.size (msg : Message) : Nat :=
  recordSize ([("id", textSize msg.id), ("channel", textSize msg.channel),
    ("type", textSize msg.type), ("payload", bytesSize msg.payload),
    ("timestamp", textSize msg.timestamp)] ++ optionalText "source" msg.source)

inductive Driver where
  | memory
  | redis
  | postgres

def maxPayloadSize : Nat := 7900

/-- Whether `Publish` takes a message; PostgreSQL refuses a large one for good. -/
def Driver.publish (driver : Driver) (msg : Message) : Bool :=
  match driver with
  | .memory | .redis => true
  | .postgres => msg.size ≤ maxPayloadSize

end ShadowPanel.Pubsub
