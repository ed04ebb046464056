import Clearing.Power
/-!
Decimal numbers with a bounded coefficient.  A number is a whole coefficient
below 2^96 in size, divided by a power of ten between 1 and 10^28.  The scale
is part of the number: 10.5 and 10.50 are equal in value and are written
differently.  So are zero and the zero that is left when a number below zero is
rounded away.
-/

namespace Clearing

/-- A coefficient and the number of its digits that stand after the point. -/
structure Decimal where
  coefficient : Int
  scale : Nat
  /-- A zero that is written with a minus sign. -/
  minusZero : Bool := false
  bounded : coefficient.natAbs < 2 ^ 96 := by decide
  scale_le : scale ≤ 28 := by decide
  eq_zero_of_minusZero : minusZero = true → coefficient = 0 := by nofun
deriving DecidableEq

namespace Decimal

/-- The number that the coefficient and the scale stand for. -/
def value (number : Decimal) : Rat :=
  mkRat number.coefficient (10 ^ number.scale)

/-- A coefficient and a scale within the bounds. -/
def ofParts? (coefficient : Int) (scale : Nat) : Option Decimal :=
  if bounded : coefficient.natAbs < 2 ^ 96 then
    if scale_le : scale ≤ 28 then
      some { coefficient, scale, bounded, scale_le }
    else
      none
  else
    none

def zero : Decimal where
  coefficient := 0
  scale := 0

instance : Inhabited Decimal := ⟨zero⟩

/-- Numbers are ordered by value, whatever their scales. -/
instance : LE Decimal where
  le left right :=
    left.coefficient * 10 ^ right.scale ≤ right.coefficient * 10 ^ left.scale

instance : LT Decimal where
  lt left right :=
    left.coefficient * 10 ^ right.scale < right.coefficient * 10 ^ left.scale

instance (left right : Decimal) : Decidable (left ≤ right) :=
  inferInstanceAs (Decidable (left.coefficient * 10 ^ right.scale ≤
    right.coefficient * 10 ^ left.scale))

instance (left right : Decimal) : Decidable (left < right) :=
  inferInstanceAs (Decidable (left.coefficient * 10 ^ right.scale <
    right.coefficient * 10 ^ left.scale))

def SameValue (left right : Decimal) : Prop :=
  left.coefficient * 10 ^ right.scale = right.coefficient * 10 ^ left.scale

instance (left right : Decimal) : Decidable (left.SameValue right) :=
  inferInstanceAs (Decidable (left.coefficient * 10 ^ right.scale =
    right.coefficient * 10 ^ left.scale))

def order (left right : Decimal) : Ordering :=
  compare (left.coefficient * 10 ^ right.scale)
    (right.coefficient * 10 ^ left.scale)

def negate (number : Decimal) : Decimal where
  coefficient := -number.coefficient
  scale := number.scale
  bounded := by simpa using number.bounded
  scale_le := number.scale_le

/-- Drop the zeros at the end of a fraction of the given length. -/
def withoutTrailingZeros (coefficient : Int) : (scale : Nat) → Int × Nat
  | 0 => (coefficient, 0)
  | scale + 1 =>
      if coefficient % 10 = 0 then
        withoutTrailingZeros (coefficient / 10) scale
      else
        (coefficient, scale + 1)

/-- The least number of decimals that writes the value. -/
def significantScale (number : Decimal) : Nat :=
  (withoutTrailingZeros number.coefficient number.scale).2

/-- Divide and round to the nearest whole number, a half to the even one. -/
def divideHalfEven (numerator denominator : Nat) : Nat :=
  let quotient := numerator / denominator
  let twice := 2 * (numerator % denominator)
  if twice < denominator ∨ (twice = denominator ∧ quotient % 2 = 0) then
    quotient
  else
    quotient + 1

/--
Drop fraction digits, as few as bring the coefficient below the bound.  When
rounding reaches the bound itself, one digit more goes.
-/
def squeeze (coefficient : Nat) (dropped : Nat) :
    (scale : Nat) → Option (Nat × Nat)
  | 0 =>
      let rounded := divideHalfEven coefficient (10 ^ dropped)
      if rounded < 2 ^ 96 then some (rounded, 0) else none
  | scale + 1 =>
      if coefficient / 10 ^ dropped < 2 ^ 96 then
        let rounded := divideHalfEven coefficient (10 ^ dropped)
        if rounded < 2 ^ 96 then
          some (rounded, scale + 1)
        else
          some (divideHalfEven rounded 10, scale)
      else
        squeeze coefficient (dropped + 1) scale

/--
The sum at the larger of the two scales, rounded only when the coefficient
would not fit.  Adding zero gives the other number with its own scale.
-/
def add? (left right : Decimal) : Option Decimal :=
  if left.coefficient = 0 then
    some right
  else if right.coefficient = 0 then
    some left
  else
    let scale := max left.scale right.scale
    let exact := left.coefficient * 10 ^ (scale - left.scale) +
      right.coefficient * 10 ^ (scale - right.scale)
    (squeeze exact.natAbs 0 scale).bind fun fitted =>
      ofParts? (exact.sign * fitted.1) fitted.2

/-- The difference, by the same rule as the sum. -/
def sub? (left right : Decimal) : Option Decimal :=
  left.add? right.negate

/--
Reduce the scale; the first of the digits that go decides whether the last one
that stays goes up.
-/
def reduceScale (number : Decimal) (scale : Nat) : Nat :=
  let dropped := number.scale - scale
  let size := number.coefficient.natAbs
  if dropped = 0 then
    size
  else
    let kept := size / 10 ^ dropped
    if size / 10 ^ (dropped - 1) % 10 < 5 then kept else kept + 1

end Decimal

end Clearing
