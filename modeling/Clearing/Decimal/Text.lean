import Clearing.Decimal.Basic
import Clearing.Text.Ascii
/-!
Decimal numbers as text.  Plain notation is an optional sign, digits with at
most one point, and underscores after the first digit.  A fraction longer than
the bounds allow is rounded at the first digit that has no room, before what
follows that digit is looked at.  Scientific
notation adds a power of ten behind `e`.
-/

namespace Clearing.Decimal

open Text

/-- Why a text is not a decimal number. -/
inductive TextFault where
  | empty
  | noDigits
  | twoPoints
  | misplacedSeparator
  | unknownCharacter
  | tooManyDigits
  | roundedPastBound
  | scaleTooLarge (scale : Nat)
  | tooLarge
  | notScientific
deriving DecidableEq

def TextFault.message : TextFault → String
  | .empty => "Invalid decimal: empty"
  | .noDigits => "Invalid decimal: no digits found"
  | .twoPoints => "Invalid decimal: two decimal points"
  | .misplacedSeparator => "Invalid decimal: must start lead with a number"
  | .unknownCharacter => "Invalid decimal: unknown character"
  | .tooManyDigits => "Invalid decimal: overflow from too many digits"
  | .roundedPastBound =>
      "Invalid decimal: overflow from mantissa after rounding"
  | .scaleTooLarge scale =>
      "Scale exceeds the maximum precision allowed: " ++ toString scale ++ " > 28"
  | .tooLarge => "Number exceeds maximum value that can be represented."
  | .notScientific => "Failed to parse"

/-- What has been read of a number in plain notation. -/
structure Reading where
  coefficient : Nat
  scale : Nat
  pointSeen : Bool
  digitSeen : Bool
deriving DecidableEq

def Reading.start : Reading where
  coefficient := 0
  scale := 0
  pointSeen := false
  digitSeen := false

/-- What follows the digit that decided the rounding changes nothing. -/
def checkRest : List Char → Except TextFault Unit
  | [] => .ok ()
  | character :: rest =>
      if isDigit character || character == '_' then
        checkRest rest
      else if character = '.' then
        .error .twoPoints
      else
        .error .unknownCharacter

/-- Round a reading by the next digit, which has no room. -/
def Reading.round (reading : Reading) (digit : Char) : Except TextFault Reading :=
  if digit < '5' then
    .ok reading
  else if reading.coefficient + 1 < 2 ^ 96 then
    .ok { reading with coefficient := (reading.coefficient + 1) }
  else
    match reading.scale with
    | 0 => .error .roundedPastBound
    | scale + 1 =>
        .ok
          { reading with
            coefficient := (reading.coefficient + 1 + 4) / 10
            scale := scale }

/--
The size up to which a coefficient is collected in a machine word: as far as
ten times as much, with some room to spare, fits 64 bits.
-/
def wordLimit : Nat := (2 ^ 64 - 1) / 10 - 255

/--
A separator behind the last digit with room ends a short reading, one that was
collected in a machine word up to that digit.  In a longer reading the digit
behind the separator still decides the rounding.
-/
def Reading.endsAtSeparator (reading : Reading) : Bool :=
  reading.scale == 28 && decide (reading.coefficient / 10 < wordLimit)

/-- Read digits, the point and separators up to the end of the text. -/
def readPlain (reading : Reading) : List Char → Except TextFault Reading
  | [] => .ok reading
  | character :: rest =>
      if isDigit character then
        let coefficient :=
          10 * reading.coefficient + (character.toNat - '0'.toNat)
        if reading.pointSeen then
          if reading.scale < 28 ∧ coefficient < 2 ^ 96 then
            readPlain
              { reading with
                coefficient := coefficient
                scale := reading.scale + 1
                digitSeen := true }
              rest
          else
            (reading.round character).bind fun rounded =>
              (checkRest rest).map fun _ => rounded
        else if coefficient < 2 ^ 96 then
          readPlain
            { reading with
              coefficient := coefficient
              digitSeen := true }
            rest
        else
          .error .tooManyDigits
      else if character = '.' then
        if reading.pointSeen then
          .error .twoPoints
        else
          readPlain { reading with pointSeen := true } rest
      else if character = '_' then
        if reading.endsAtSeparator then
          (checkRest rest).map fun _ => reading
        else if reading.digitSeen then
          readPlain reading rest
        else
          .error .misplacedSeparator
      else
        .error .unknownCharacter

def Reading.toDecimal (negative : Bool) (reading : Reading) :
    Except TextFault Decimal :=
  if reading.digitSeen then
    let coefficient : Int := reading.coefficient
    match ofParts? (if negative then -coefficient else coefficient)
        reading.scale with
    | some number => .ok number
    | none => .error .tooManyDigits
  else
    .error .noDigits

def parseCharacters (characters : List Char) : Except TextFault Decimal :=
  match characters with
  | [] => .error .empty
  | '-' :: rest => do (← readPlain .start rest).toDecimal true
  | '+' :: rest => do (← readPlain .start rest).toDecimal false
  | _ => do (← readPlain .start characters).toDecimal false

def parse (text : String) : Except TextFault Decimal :=
  parseCharacters text.toList

/-- A character that announces the power of ten. -/
def isExponentMark (character : Char) : Bool :=
  character == 'e' || character == 'E'

/-- An exponent: a natural number of at most 32 bits. -/
def exponent? (characters : List Char) : Option Nat :=
  (natural? characters).filter fun exponent => decide (exponent < 2 ^ 32)

/-- What is left of a number below zero when all of its digits are dropped. -/
def vanished : Decimal where
  coefficient := 0
  scale := 28
  minusZero := true
  bounded := Decimal.zero.bounded
  eq_zero_of_minusZero _ := rfl

/--
Divide by a power of ten; what no scale can hold is rounded away, and the sign
stays even if nothing else does.
-/
def shiftDown (base : Decimal) (exponent : Nat) : Except TextFault Decimal :=
  if exponent > 28 then
    .error (.scaleTooLarge exponent)
  else
    let moved :=
      if base.scale + exponent ≤ 28 then
        ofParts? base.coefficient (base.scale + exponent)
      else
        let rounded := base.reduceScale (28 - exponent)
        if rounded = 0 ∧ base.coefficient < 0 then
          some vanished
        else
          ofParts? (base.coefficient.sign * rounded) 28
    match moved with
    | some number => .ok number
    | none => .error .notScientific

/-- Multiply by a power of ten, exactly. -/
def shiftUp (base : Decimal) (exponent : Nat) : Except TextFault Decimal :=
  if exponent ≤ base.scale then
    (ofParts? base.coefficient (base.scale - exponent)).elim (.error .tooLarge) .ok
  else if exponent ≤ 28 then
    (ofParts? (base.coefficient * 10 ^ (exponent - base.scale)) 0).elim
      (.error .tooLarge) .ok
  else
    .error (.scaleTooLarge exponent)

/-- Read a number in scientific notation. -/
def parseScientific (text : String) : Except TextFault Decimal :=
  let characters := text.toList
  let significand := characters.takeWhile fun c => !isExponentMark c
  match characters.dropWhile fun c => !isExponentMark c with
  | [] => .error .notScientific
  | _ :: exponentText => do
      let base ← parseCharacters significand
      match exponentText with
      | '-' :: digits =>
          match exponent? digits with
          | some exponent => shiftDown base exponent
          | none => .error .notScientific
      | _ =>
          match exponent? exponentText with
          | some exponent => shiftUp base exponent
          | none => .error .notScientific

/-- Read a number in plain notation, else in scientific notation. -/
def parseEither (text : String) : Except TextFault Decimal :=
  match parse text with
  | .ok number => .ok number
  | .error fault =>
      if text.toList.any isExponentMark then
        parseScientific text
      else
        .error fault

/-- The digits of a coefficient with a point before the last `scale` of them. -/
def pointed (size scale : Nat) : List Char :=
  let digits := Nat.toDigits 10 size
  let padded := List.replicate (scale + 1 - digits.length) '0' ++ digits
  if scale = 0 then
    padded
  else
    padded.take (padded.length - scale) ++
      '.' :: padded.drop (padded.length - scale)

/-- A number in plain notation, all digits of its scale included. -/
def toText (number : Decimal) : String :=
  let written := pointed number.coefficient.natAbs number.scale
  String.ofList
    (if number.coefficient < 0 ∨ number.minusZero then
      '-' :: written
    else
      written)

end Clearing.Decimal
