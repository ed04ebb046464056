import Clearing.Power
/-!
Letters and digits of ASCII.  Every function here leaves characters outside
ASCII alone, which is what comparing header names, currency codes and
hexadecimal digits asks for.
-/

namespace Clearing.Text

/-- The upper case of an ASCII letter, any other character unchanged. -/
def upper (character : Char) : Char :=
  if 'a' ≤ character ∧ character ≤ 'z' then
    Char.ofNat (character.toNat - 32)
  else
    character

/-- The lower case of an ASCII letter, any other character unchanged. -/
def lower (character : Char) : Char :=
  if 'A' ≤ character ∧ character ≤ 'Z' then
    Char.ofNat (character.toNat + 32)
  else
    character

/-- A text with its ASCII letters in upper case. -/
def upperText (text : String) : String :=
  String.ofList (text.toList.map upper)

/-- A text with its ASCII letters in lower case. -/
def lowerText (text : String) : String :=
  String.ofList (text.toList.map lower)

/-- Two texts that differ in the case of ASCII letters at most. -/
def equalIgnoringCase (left right : String) : Bool :=
  left.toList.map lower == right.toList.map lower

def isDigit (character : Char) : Bool :=
  decide ('0' ≤ character) && decide (character ≤ '9')

def isLowerHex (character : Char) : Bool :=
  isDigit character || (decide ('a' ≤ character) && decide (character ≤ 'f'))

def isHex (character : Char) : Bool :=
  isLowerHex character || (decide ('A' ≤ character) && decide (character ≤ 'F'))

/-- The value of a hexadecimal digit in either case. -/
def hexValue (character : Char) : Nat :=
  if isDigit character then
    character.toNat - '0'.toNat
  else if decide ('a' ≤ character) && decide (character ≤ 'f') then
    character.toNat - 'a'.toNat + 10
  else
    character.toNat - 'A'.toNat + 10

def hexNumber (digits : List Char) : Nat :=
  digits.foldl (fun value digit => 16 * value + hexValue digit) 0

def decimalNumber (digits : List Char) : Nat :=
  Nat.ofDigitChars 10 digits 0

/-- A lower-case hexadecimal digit for a value below sixteen. -/
def hexDigit (value : Nat) : Char :=
  Nat.digitChar value

/-- The last `width` hexadecimal digits of a number, zeros in front included. -/
def hexText : (width : Nat) → (value : Nat) → List Char
  | 0, _ => []
  | width + 1, value => hexText width (value / 16) ++ [hexDigit (value % 16)]

/-- A natural number written as an optional plus sign and decimal digits. -/
def natural? (characters : List Char) : Option Nat :=
  let digits := match characters with
    | '+' :: rest => rest
    | _ => characters
  if digits ≠ [] ∧ digits.all isDigit then
    some (decimalNumber digits)
  else
    none

/-- An integer written as an optional sign and decimal digits. -/
def integer? (characters : List Char) : Option Int :=
  match characters with
  | '-' :: rest =>
      if rest ≠ [] ∧ rest.all isDigit then
        some (-(decimalNumber rest : Int))
      else
        none
  | _ => (natural? characters).map Int.ofNat

end Clearing.Text
