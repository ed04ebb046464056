import Clearing.Text.Blank
import Clearing.Time.Timestamp
/-!
Moments as text in the internet date and time format, RFC 3339.  Reading is
lenient about white space, about leading zeros and about how the offset from
universal time is separated.  Writing is strict, always in universal time and
with no more digits than the fraction of the second needs.
-/

namespace Clearing.Timestamp

open Text

/-- Read at least one digit and at most `limit` of them. -/
def readNumber (limit : Nat) (characters : List Char) :
    Option (Nat × List Char) :=
  let digits := (characters.take limit).takeWhile isDigit
  if digits = [] then
    none
  else
    some (decimalNumber digits, characters.drop digits.length)

def readMark (mark : Char) (characters : List Char) : Option (List Char) :=
  match characters with
  | character :: rest => if character = mark then some rest else none
  | [] => none

/-- Read a year: four digits at most, or any number of them behind a sign. -/
def readYear (characters : List Char) : Option (Int × List Char) :=
  match trimStart characters with
  | '-' :: rest => do
      let (year, rest) ← readNumber rest.length rest
      return (-(year : Int), rest)
  | '+' :: rest => do
      let (year, rest) ← readNumber rest.length rest
      return ((year : Int), rest)
  | rest => do
      let (year, rest) ← readNumber 4 rest
      return ((year : Int), rest)

/-- Read a number of two digits at most, with blanks around it. -/
def readPair (characters : List Char) : Option (Nat × List Char) := do
  let (number, rest) ← readNumber 2 (trimStart characters)
  return (number, trimStart rest)

def readDate (characters : List Char) : Option (Date × List Char) := do
  let (year, rest) ← readYear characters
  let rest ← readMark '-' (trimStart rest)
  let (month, rest) ← readPair rest
  let rest ← readMark '-' rest
  let (day, rest) ← readNumber 2 (trimStart rest)
  if Date.YearInRange year then
    return (← Date.ofNumbers? year month day, rest)
  else
    none

/-- Nanoseconds from the digits behind the point; those past nine are dropped. -/
def readFraction (characters : List Char) : Option (Nat × List Char) :=
  match characters with
  | '.' :: rest => do
      let digits := (rest.take 9).takeWhile isDigit
      let (fraction, rest) ← readNumber 9 rest
      return (fraction * 10 ^ (9 - digits.length), rest.dropWhile isDigit)
  | _ => some (0, characters)

/-- A colon or white space, which may separate the parts of an offset. -/
def separatesOffset (character : Char) : Bool :=
  character == ':' || isBlank character

/-- Read hours and minutes of an offset that has been given a sign. -/
def readOffsetSize (characters : List Char) : Option (Nat × List Char) :=
  match characters with
  | tens :: ones :: rest =>
      match rest.dropWhile separatesOffset with
      | minuteTens :: minuteOnes :: rest =>
          if [tens, ones, minuteTens, minuteOnes].all isDigit ∧
              minuteTens < '6' then
            some (60 * decimalNumber [tens, ones] +
              decimalNumber [minuteTens, minuteOnes], rest)
          else
            none
      | _ => none
  | _ => none

/-- Read the offset from universal time in minutes. -/
def readOffset (characters : List Char) : Option (Int × List Char) :=
  if (characters.take 3).map upper = ['U', 'T', 'C'] then
    some (0, characters.drop 3)
  else
    match characters with
    | 'Z' :: rest | 'z' :: rest => some (0, rest)
    | '+' :: rest => do
        let (size, rest) ← readOffsetSize rest
        return ((size : Int), rest)
    | '-' :: rest | '−' :: rest => do
        let (size, rest) ← readOffsetSize rest
        return (-(size : Int), rest)
    | _ => none

/-- Read a moment and convert it to universal time. -/
def parseCharacters (characters : List Char) : Option Timestamp := do
  let (date, rest) ← readDate characters
  let rest ← match rest with
    | 'T' :: rest | 't' :: rest | ' ' :: rest => some rest
    | _ => none
  let (hour, rest) ← readPair rest
  let rest ← readMark ':' rest
  let (minute, rest) ← readPair rest
  let rest ← readMark ':' rest
  let (second, rest) ← readNumber 2 (trimStart rest)
  let (nanosecond, rest) ← readFraction rest
  let (offset, rest) ← readOffset (trimStart rest)
  let shown ← ofNumbers? date hour minute second nanosecond
  let moment := shown.fromOffset offset
  if rest.all isBlank ∧ offset.natAbs < 1440 ∧
      Date.YearInRange moment.date.year then
    return moment
  else
    none

def parse (text : String) : Option Timestamp :=
  parseCharacters text.toList

/-- The last `width` decimal digits of a number. -/
def padded : (width : Nat) → (number : Nat) → List Char
  | 0, _ => []
  | width + 1, number =>
      padded width (number / 10) ++ [Nat.digitChar (number % 10)]

/-- A year of four digits, with a sign when it has more or is negative. -/
def writeYear (year : Int) : List Char :=
  let digits := Nat.toDigits 10 year.natAbs
  let four := List.replicate (4 - digits.length) '0' ++ digits
  if 0 ≤ year ∧ year ≤ 9999 then
    four
  else
    (if year < 0 then '-' else '+') :: four

/-- No digits, three, six or nine, the fewest that lose nothing. -/
def writeFraction (nanosecond : Nat) : List Char :=
  if nanosecond = 0 then
    []
  else if nanosecond % 10 ^ 6 = 0 then
    '.' :: padded 3 (nanosecond / 10 ^ 6)
  else if nanosecond % 10 ^ 3 = 0 then
    '.' :: padded 6 (nanosecond / 10 ^ 3)
  else
    '.' :: padded 9 nanosecond

def toCharacters (moment : Timestamp) : List Char :=
  writeYear moment.date.year ++ '-' :: padded 2 moment.date.month ++
    '-' :: padded 2 moment.date.day ++ 'T' :: padded 2 moment.hour ++
    ':' :: padded 2 moment.minute ++ ':' :: padded 2 moment.second ++
    writeFraction moment.nanosecond ++ ['Z']

def toText (moment : Timestamp) : String :=
  String.ofList moment.toCharacters

end Clearing.Timestamp
