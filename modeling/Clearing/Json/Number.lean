import Clearing.Decimal.Binary64
import Clearing.Json.Reader
/-!
Numbers in JSON.  A whole number that fits 64 bits is exact.  Any other number
goes through binary floating point, and one above its range is refused.
-/

namespace Clearing.Json

inductive Number where
  | natural (value : Nat)
  /-- A whole number below zero, by its size. -/
  | negative (size : Nat)
  | binary (negative : Bool) (size : Binary64)
deriving DecidableEq

/-- The parts of a number token, as they are written. -/
structure NumberToken where
  negative : Bool
  whole : List Char
  fraction : Option (List Char)
  exponent : Option (Bool × List Char)
deriving DecidableEq

/-- Take all digits in front. -/
def digits : Reader (List Char) := fun bytes =>
  .ok ((bytes.takeWhile isDigitByte).map character, bytes.dropWhile isDigitByte)

/-- Take at least one digit. -/
def someDigits : Reader (List Char) := fun bytes =>
  match bytes with
  | [] => .error .truncated
  | byte :: _ => if isDigitByte byte then digits bytes else .error .malformed

/-- The digits before the point; a zero in front stands alone. -/
def wholeDigits : Reader (List Char) := do
  let whole ← someDigits
  if whole.length > 1 ∧ whole.head? = some '0' then
    throw .malformed
  return whole

/-- The part behind the point, when there is a point. -/
def fractionPart : Reader (Option (List Char)) := fun bytes =>
  match bytes with
  | byte :: rest =>
      if byte = ascii '.' then do
        let (fraction, rest) ← someDigits rest
        return (some fraction, rest)
      else
        .ok (none, bytes)
  | [] => .ok (none, bytes)

/-- Whether the exponent has a minus sign; a plus sign is taken as well. -/
def exponentSign (bytes : Bytes) : Bool × Bytes :=
  match bytes with
  | byte :: rest =>
      if byte = ascii '-' then
        (true, rest)
      else if byte = ascii '+' then
        (false, rest)
      else
        (false, bytes)
  | [] => (false, bytes)

/-- The sign and the digits of an exponent, when there is one. -/
def exponentPart : Reader (Option (Bool × List Char)) := fun bytes =>
  match bytes with
  | byte :: rest =>
      if byte = ascii 'e' ∨ byte = ascii 'E' then do
        let (negative, rest) := exponentSign rest
        let (exponent, rest) ← someDigits rest
        return (some (negative, exponent), rest)
      else
        .ok (none, bytes)
  | [] => .ok (none, bytes)

/-- A number token from its first byte on. -/
def numberToken : Reader NumberToken := fun bytes => do
  let (negative, bytes) := match bytes with
    | byte :: rest => if byte = ascii '-' then (true, rest) else (false, bytes)
    | [] => (false, bytes)
  let (whole, bytes) ← wholeDigits bytes
  let (fraction, bytes) ← fractionPart bytes
  let (exponent, bytes) ← exponentPart bytes
  return (⟨negative, whole, fraction, exponent⟩, bytes)

/-- The least number that 64 bits do not hold. -/
def wordBound : Nat := 2 ^ 64

/--
Collect whole digits in 64 bits.  From the first digit without room on, digits
only raise the power of ten.
-/
def collectWhole (significand : Nat) : List Char → Nat × Nat
  | [] => (significand, 0)
  | digit :: rest =>
      let next := 10 * significand + (digit.toNat - '0'.toNat)
      if next < wordBound then
        collectWhole next rest
      else
        (significand, rest.length + 1)

/-- Collect fraction digits in 64 bits, up to the first without room. -/
def collectFraction (significand used : Nat) : List Char → Nat × Nat
  | [] => (significand, used)
  | digit :: rest =>
      let next := 10 * significand + (digit.toNat - '0'.toNat)
      if next < wordBound then
        collectFraction next (used + 1) rest
      else
        (significand, used)

/-- An exponent of more than 31 bits counts as the largest of 31 bits. -/
def exponentSize (exponent : List Char) : Nat :=
  min (Text.decimalNumber exponent) (2 ^ 31 - 1)

/-- The floating-point value of a token. -/
def NumberToken.binary (token : NumberToken) : Except Fault Number :=
  let (significand, raised) := collectWhole 0 token.whole
  let (significand, lowered) :=
    collectFraction significand 0 (token.fraction.getD [])
  let base : Int := raised - lowered
  let power : Int := match token.exponent with
    | none => base
    | some (true, exponent) => base - exponentSize exponent
    | some (false, exponent) => base + exponentSize exponent
  match Binary64.ofScientific? significand power with
  | some size => .ok (.binary token.negative size)
  | none => .error .malformed

def NumberToken.value (token : NumberToken) : Except Fault Number :=
  let whole := Text.decimalNumber token.whole
  match token.fraction, token.exponent with
  | none, none =>
      if token.negative then
        if 0 < whole ∧ whole ≤ 2 ^ 63 then
          .ok (.negative whole)
        else
          token.binary
      else if whole < wordBound then
        .ok (.natural whole)
      else
        token.binary
  | _, _ => token.binary

/-- A number from its first byte on. -/
def number : Reader Number := do
  let token ← numberToken
  token.value

end Clearing.Json
