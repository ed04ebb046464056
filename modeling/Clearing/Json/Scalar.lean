import Clearing.Json.Record
import Clearing.Json.Writer
import Clearing.Time.Text
/-!
Decimal numbers, moments and named values in JSON.  All three are written as
strings; a decimal number may also be read from a JSON number.
-/

namespace Clearing.Json

/-- The decimal number that a JSON number stands for. -/
def Number.toDecimal? (number : Number) : Option Decimal :=
  match number with
  | .natural value => Decimal.ofParts? value 0
  | .negative size => Decimal.ofParts? (-(size : Int)) 0
  | .binary below size =>
      let characters := size.toCharacters
      (Decimal.parseCharacters
        (if below then '-' :: characters else characters)).toOption

/-- Read a decimal number from a string or from a number. -/
def decimal : Reader Decimal := do
  let first ← peek
  if first = ascii '"' then
    advance
    match Decimal.parseEither (← stringRest) with
    | .ok value => return value
    | .error _ => throw .mismatched
  else if first = ascii '-' ∨ isDigitByte first then
    match (← number).toDecimal? with
    | some value => return value
    | none => throw .mismatched
  else
    mismatch

def writeDecimal (value : Decimal) : Bytes := writeString value.toText

def moment : Reader Timestamp := stringAs Timestamp.parse

def writeMoment (value : Timestamp) : Bytes := writeString value.toText

/--
Read one of several names, alone or as the only member of an object whose
value is null.
-/
def oneOf {Value : Type} (parse : String → Option Value) : Reader Value := do
  let first ← peek
  if first = ascii '"' then
    stringAs parse
  else if first = ascii '\x7b' then
    advance
    let value ← stringAs parse
    colon
    if (← peek) = ascii 'n' then
      advance
      word ['u', 'l', 'l']
    else
      mismatch
    if (← peek) ≠ ascii '\x7d' then
      throw .malformed
    advance
    return value
  else
    throw .malformed

end Clearing.Json
