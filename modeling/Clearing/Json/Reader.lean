import Clearing.Text.Ascii
import Clearing.Text.Bytes
/-!
Reading JSON from the left, one token after another.  The first problem ends
the reading, and its kind says whether the text stops too early, is not JSON,
or is JSON that does not have the shape asked for.
-/

namespace Clearing.Json

/-- Why a text was refused. -/
inductive Fault where
  /-- The text is not JSON. -/
  | malformed
  /-- The text is JSON of another shape. -/
  | mismatched
  /-- The text ends too early. -/
  | truncated
deriving DecidableEq

/-- A reader takes a value from the front of the text. -/
abbrev Reader (Value : Type) := StateT Bytes (Except Fault) Value

abbrev ascii (character : Char) : UInt8 := character.toUInt8

/-- The ASCII character of a byte; bytes beyond ASCII give other characters. -/
def character (byte : UInt8) : Char := Char.ofNat byte.toNat

def isDigitByte (byte : UInt8) : Bool := Text.isDigit (character byte)

/-- White space between tokens: space, tab, line feed and carriage return. -/
def isSpace (byte : UInt8) : Bool :=
  byte == 0x20 || byte == 0x09 || byte == 0x0A || byte == 0x0D

def skipSpace (bytes : Bytes) : Bytes := bytes.dropWhile isSpace

/-- The next byte that is no white space; it is not taken yet. -/
def peek : Reader UInt8 := fun bytes =>
  match skipSpace bytes with
  | [] => .error .truncated
  | byte :: rest => .ok (byte, byte :: rest)

/-- Take the byte that was just seen. -/
def advance : Reader Unit := fun bytes => .ok ((), bytes.drop 1)

/-- A word such as `null`, of which the first letter has been taken. -/
def word (letters : List Char) : Reader Unit := fun bytes =>
  match letters, bytes with
  | [], _ => .ok ((), bytes)
  | _ :: _, [] => .error .truncated
  | letter :: letters, byte :: rest =>
      if byte = ascii letter then
        word letters rest
      else
        .error .malformed

def hexFour (bytes : Bytes) : Except Fault (Nat × Bytes) :=
  match bytes with
  | a :: b :: c :: d :: rest =>
      let digits := [a, b, c, d].map character
      if digits.all Text.isHex then
        .ok (Text.hexNumber digits, rest)
      else
        .error .malformed
  | _ => .error .truncated

/-- The second half of a pair of escapes for a character beyond 16 bits. -/
def lowHalf (high : Nat) (bytes : Bytes) : Except Fault (Nat × Bytes) :=
  match bytes with
  | [] => .error .truncated
  | backslash :: rest =>
      if backslash = ascii '\\' then
        match rest with
        | [] => .error .truncated
        | mark :: rest =>
            if mark = ascii 'u' then do
              let (low, rest) ← hexFour rest
              if 0xDC00 ≤ low ∧ low ≤ 0xDFFF then
                .ok (0x10000 + (high - 0xD800) * 0x400 + (low - 0xDC00), rest)
              else
                .error .malformed
            else
              .error .malformed
      else
        .error .malformed

/-- The code point of an escape by number. -/
def codePoint (bytes : Bytes) : Except Fault (Nat × Bytes) := do
  let (unit, rest) ← hexFour bytes
  if 0xDC00 ≤ unit ∧ unit ≤ 0xDFFF then
    .error .malformed
  else if 0xD800 ≤ unit ∧ unit ≤ 0xDBFF then
    lowHalf unit rest
  else
    .ok (unit, rest)

/-- The letters of the short escapes and the bytes that they stand for. -/
def shortEscapes : List (UInt8 × UInt8) :=
  [(ascii '"', ascii '"'), (ascii '\\', ascii '\\'), (ascii '/', ascii '/'),
    (ascii 'b', 0x08), (ascii 'f', 0x0C), (ascii 'n', 0x0A),
    (ascii 'r', 0x0D), (ascii 't', 0x09)]

/-- What stands behind a backslash, as the bytes that it stands for. -/
def escape (bytes : Bytes) : Except Fault (Bytes × Bytes) :=
  match bytes with
  | [] => .error .truncated
  | mark :: rest =>
      match shortEscapes.lookup mark with
      | some byte => .ok ([byte], rest)
      | none =>
          if mark = ascii 'u' then do
            let (point, rest) ← codePoint rest
            .ok (Bytes.ofText (String.singleton (Char.ofNat point)), rest)
          else
            .error .malformed

/-- The bytes of a string up to its closing quote. -/
def stringBody : (fuel : Nat) → (bytes : Bytes) → Except Fault (Bytes × Bytes)
  | 0, _ => .error .truncated
  | _ + 1, [] => .error .truncated
  | fuel + 1, byte :: rest =>
      if byte = ascii '"' then
        .ok ([], rest)
      else if byte = ascii '\\' then do
        let (meant, rest) ← escape rest
        let (body, rest) ← stringBody fuel rest
        .ok (meant ++ body, rest)
      else if byte < 0x20 then
        .error .malformed
      else do
        let (body, rest) ← stringBody fuel rest
        .ok (byte :: body, rest)

/-- A string of which the opening quote has been taken. -/
def stringRest : Reader String := fun bytes => do
  let (body, rest) ← stringBody (bytes.length + 1) bytes
  match Bytes.toText? body with
  | some text => .ok (text, rest)
  | none => .error .malformed

end Clearing.Json
