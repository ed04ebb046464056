import Clearing.Decimal.Text
/-!
Binary floating-point numbers of 64 bits, without a sign: a significand below
2^53 times a power of two.  Rounding to the nearest is exact arithmetic on
fractions, and the text of a number has the fewest digits that read back.
-/

namespace Clearing

/-- A finite magnitude. -/
structure Binary64 where
  significand : Nat
  exponent : Int
deriving DecidableEq

namespace Binary64

def zero : Binary64 where
  significand := 0
  exponent := -1074

/-- A fraction times a power of two, as a fraction. -/
def scaled (numerator denominator : Nat) (twos : Int) : Nat × Nat :=
  (numerator * 2 ^ twos.toNat, denominator * 2 ^ (-twos).toNat)

/-- The power of two of the last place of the number nearest to a fraction. -/
def lastPlace (numerator denominator : Nat) : Int :=
  let low : Int := numerator.log2 - denominator.log2 - 53
  let fraction := scaled numerator denominator (-low)
  let place := if fraction.1 / fraction.2 < 2 ^ 53 then low else low + 1
  max place (-1074)

/-- The nearest number to a fraction, ties to even; none above the range. -/
def nearest? (numerator denominator : Nat) : Option Binary64 :=
  if numerator = 0 then
    some zero
  else
    let place := lastPlace numerator denominator
    let fraction := scaled numerator denominator (-place)
    let rounded := Decimal.divideHalfEven fraction.1 fraction.2
    let result : Binary64 :=
      if rounded = 2 ^ 53 then ⟨2 ^ 52, place + 1⟩ else ⟨rounded, place⟩
    if result.exponent ≤ 971 then some result else none

def fraction (number : Binary64) : Nat × Nat :=
  scaled number.significand 1 number.exponent

def mul? (left right : Binary64) : Option Binary64 :=
  nearest? (left.fraction.1 * right.fraction.1)
    (left.fraction.2 * right.fraction.2)

def div? (left right : Binary64) : Option Binary64 :=
  nearest? (left.fraction.1 * right.fraction.2)
    (left.fraction.2 * right.fraction.1)

/-- The nearest number to a power of ten. -/
def powerOfTen? (exponent : Nat) : Option Binary64 :=
  nearest? (10 ^ exponent) 1

/--
Divide by a power of ten of any size.  Beyond 10^308, the largest power within
the range, the division goes in several steps, each rounded by itself.
-/
def shrink : (steps : Nat) → (number : Binary64) → (exponent : Nat) → Binary64
  | 0, number, _ => number
  | steps + 1, number, exponent =>
      if number.significand = 0 then
        number
      else
        let step := min exponent 308
        let divided := do
          let power ← powerOfTen? step
          number.div? power
        let next := divided.getD number
        if exponent ≤ 308 then next else shrink steps next (exponent - 308)

/-- A whole number times a power of ten, each factor rounded by itself. -/
def ofScientific? (significand : Nat) (exponent : Int) : Option Binary64 := do
  let base ← nearest? significand 1
  if 0 ≤ exponent then
    if exponent ≤ 308 then
      let power ← powerOfTen? exponent.toNat
      base.mul? power
    else if base.significand = 0 then
      some base
    else
      none
  else
    let size := (-exponent).toNat
    some (shrink (size / 308 + 1) base size)

/-- The zeros between the point and the first digit of a fraction below one. -/
def leadingZeros (denominator : Nat) : (fuel : Nat) → (numerator : Nat) → Nat
  | 0, _ => 0
  | fuel + 1, numerator =>
      if denominator ≤ 10 * numerator then
        0
      else
        leadingZeros denominator fuel (10 * numerator) + 1

/-- The position of the first digit: the least power of ten above the value. -/
def magnitude (numerator denominator : Nat) : Int :=
  if denominator ≤ numerator then
    (Nat.toDigits 10 (numerator / denominator)).length
  else
    -(leadingZeros denominator 400 numerator : Int)

/--
The numbers that round to this one lie between these bounds, given with the
number itself as multiples of a quarter of its last place.
-/
def quarters (number : Binary64) : Nat × Nat × Nat :=
  let middle := 4 * number.significand
  let below :=
    if number.significand = 2 ^ 52 ∧ number.exponent ≠ -1074 then 1 else 2
  (middle - below, middle, middle + 2)

/--
The nearer of the two neighbours on a decimal grid that read back, and the upper
one if both are equally near.
-/
def onGrid? (number : Binary64) (place : Int) : Option Nat :=
  let (low, middle, high) := number.quarters
  let unit := scaled 1 1 (number.exponent - 2)
  let grid := (10 ^ place.toNat, 10 ^ (-place).toNat)
  let reads (digits : Nat) : Bool :=
    let position := digits * grid.1 * unit.2
    let lower := low * unit.1 * grid.2
    let upper := high * unit.1 * grid.2
    if number.significand % 2 = 0 then
      decide (lower ≤ position) && decide (position ≤ upper)
    else
      decide (lower < position) && decide (position < upper)
  let numerator := middle * unit.1 * grid.2
  let denominator := grid.1 * unit.2
  let below := numerator / denominator
  let fromBelow := 2 * (numerator % denominator)
  match reads below, reads (below + 1) with
  | true, true => some (if fromBelow < denominator then below else below + 1)
  | true, false => some below
  | false, true => some (below + 1)
  | false, false => none

/-- The fewest digits that read back, with the power of ten of the last one. -/
def shortest (number : Binary64) : Nat × Int :=
  let (numerator, denominator) := number.fraction
  let position := magnitude numerator denominator
  let found := (List.range 17).findSome? fun (more : Nat) =>
    let place := position - (more + 1 : Nat)
    (number.onGrid? place).map fun digits =>
      if digits = 10 ^ (more + 1) then (1, position) else (digits, place)
  found.getD (0, 0)

/-- The number in plain decimal notation. -/
def toCharacters (number : Binary64) : List Char :=
  if number.significand = 0 then
    ['0']
  else
    let (digits, place) := number.shortest
    if 0 ≤ place then
      Nat.toDigits 10 digits ++ List.replicate place.toNat '0'
    else
      Decimal.pointed digits (-place).toNat

end Binary64

end Clearing
