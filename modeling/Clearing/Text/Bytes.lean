import Clearing.Text.Ascii
/-!
Byte strings and the texts they encode in UTF-8.
-/

namespace Clearing

/-- A message payload or a stored value. -/
abbrev Bytes := List UInt8

namespace Bytes

/-- The UTF-8 encoding of a text. -/
def ofText (text : String) : Bytes :=
  text.toByteArray.data.toList

/-- The text that the bytes encode, if they are UTF-8. -/
def toText? (bytes : Bytes) : Option String :=
  String.fromUTF8? ⟨bytes.toArray⟩

/-- The bytes that pairs of hexadecimal digits denote. -/
def ofHex : List Char → Bytes
  | high :: low :: rest =>
      UInt8.ofNat (Text.hexNumber [high, low]) :: ofHex rest
  | _ => []

def toHex (bytes : Bytes) : String :=
  String.ofList (bytes.flatMap fun byte => Text.hexText 2 byte.toNat)

theorem toText?_ofText (text : String) : toText? (ofText text) = some text := by
  have same : (⟨(ofText text).toArray⟩ : ByteArray) = text.toByteArray := by
    simp [ofText]
  rw [toText?, same, String.fromUTF8?, dif_pos text.isValidUTF8]
  rfl

end Bytes

end Clearing
