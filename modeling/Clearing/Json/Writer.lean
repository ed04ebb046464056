import Clearing.Json.Reader
/-!
Writing JSON without white space.  In strings, quotes, backslashes and control
characters are escaped and everything else is written as it is.
-/

namespace Clearing.Json

/-- The control characters with a short escape, and its letter. -/
def shortControls : List (UInt8 × UInt8) :=
  [(0x08, ascii 'b'), (0x0C, ascii 'f'), (0x0A, ascii 'n'),
    (0x0D, ascii 'r'), (0x09, ascii 't')]

def writeByte (byte : UInt8) : Bytes :=
  if byte = ascii '"' ∨ byte = ascii '\\' then
    [ascii '\\', byte]
  else if byte < 0x20 then
    match shortControls.lookup byte with
    | some letter => [ascii '\\', letter]
    | none =>
        [ascii '\\', ascii 'u'] ++ (Text.hexText 4 byte.toNat).map ascii
  else
    [byte]

def writeString (text : String) : Bytes :=
  ascii '"' :: (Bytes.ofText text).flatMap writeByte ++ [ascii '"']

/-- Members behind one another, with commas between them. -/
def writeMembers : List (String × Bytes) → Bytes
  | [] => []
  | [(name, value)] => writeString name ++ ascii ':' :: value
  | (name, value) :: rest =>
      writeString name ++ ascii ':' :: value ++ ascii ',' :: writeMembers rest

/-- An object with members in the given order. -/
def writeObject (members : List (String × Bytes)) : Bytes :=
  ascii '\x7b' :: writeMembers members ++ [ascii '\x7d']

end Clearing.Json
