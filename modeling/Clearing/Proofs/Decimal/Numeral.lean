import Clearing.Decimal.Text
import Clearing.Proofs.Decimal.Value
import Clearing.Proofs.Text.Digits
import Mathlib.Algebra.Order.Field.Power
/-!
Decimal numbers as they are written, with digits on both sides of a point and with a
power of ten behind them.  A numeral denotes one number exactly, however many digits it
has; whether a decimal number of bounded size has that value is another matter.
-/

namespace Clearing

structure Numeral where
  negative : Bool
  /-- The digits on both sides of the point. -/
  digits : List Char
  /-- How many of the digits stand behind the point. -/
  decimals : Nat
  exponent : Int
deriving DecidableEq

namespace Numeral

def units (numeral : Numeral) : Nat := Text.decimalNumber numeral.digits

/-- The number that a numeral denotes, without its sign. -/
def size (numeral : Numeral) : Rat :=
  numeral.units * 10 ^ (numeral.exponent - numeral.decimals)

def value (numeral : Numeral) : Rat :=
  if numeral.negative then -numeral.size else numeral.size

/-- A numeral in plain notation.  Separators count for nothing. -/
def ofPlain (characters : List Char) : Numeral where
  negative := characters.head? = some '-'
  digits := characters.filter Text.isDigit
  decimals := ((characters.dropWhile (· ≠ '.')).filter Text.isDigit).length
  exponent := 0

def significandText (characters : List Char) : List Char :=
  characters.takeWhile fun character => !Decimal.isExponentMark character

def exponentText (characters : List Char) : List Char :=
  (characters.dropWhile fun character => !Decimal.isExponentMark character).tail

/-- The power of ten that an exponent denotes; no exponent stands for none. -/
def powerOfText (characters : List Char) : Int :=
  let size : Int := Text.decimalNumber (characters.filter Text.isDigit)
  if characters.head? = some '-' then -size else size

def significand (text : String) : Numeral := ofPlain (significandText text.toList)

def ofText (text : String) : Numeral :=
  { significand text with exponent := powerOfText (exponentText text.toList) }

theorem size_nonneg (numeral : Numeral) : 0 ≤ numeral.size := by
  rw [size]
  positivity

theorem size_ofPlain (characters : List Char) :
    (ofPlain characters).size =
      (ofPlain characters).units / 10 ^ (ofPlain characters).decimals := by
  have power : (10 : Rat) ^ ((0 : Int) - (ofPlain characters).decimals) =
      (10 ^ (ofPlain characters).decimals)⁻¹ := by
    rw [zero_sub, zpow_neg, zpow_natCast]
  rw [size, show (ofPlain characters).exponent = 0 from rfl, power, div_eq_mul_inv]

theorem value_ofText (text : String) :
    (ofText text).value =
      (significand text).value * 10 ^ powerOfText (exponentText text.toList) := by
  have size : (ofText text).size =
      (significand text).size * 10 ^ powerOfText (exponentText text.toList) := by
    generalize exponent : powerOfText (exponentText text.toList) = power
    have sum : power - ((significand text).decimals : Int) =
        0 - (significand text).decimals + power := by
      ring
    have shape : ofText text = { significand text with exponent := power } := by
      rw [ofText, exponent]
    rw [shape]
    change ((significand text).units : Rat) * 10 ^ (power - ((significand text).decimals : Int)) =
      (significand text).units * 10 ^ ((0 : Int) - (significand text).decimals) * 10 ^ power
    rw [sum, zpow_add₀ (by norm_num), mul_assoc]
  unfold value
  rw [size, show (ofText text).negative = (significand text).negative from rfl]
  split
  · rw [neg_mul]
  · rfl

end Numeral

namespace Decimal

/-- Some decimal number of bounded size has the value. -/
def Representable (value : Rat) : Prop := ∃ number : Decimal, number.value = value

theorem representable_of_bounds {coefficient : Int} {scale : Nat}
    (bounded : coefficient.natAbs < 2 ^ 96) (scale_le : scale ≤ 28) :
    Representable (coefficient / 10 ^ scale) :=
  ⟨⟨coefficient, scale, false, bounded, scale_le, fun minus => absurd minus Bool.false_ne_true⟩,
    value_eq_div _⟩

theorem Representable.neg {value : Rat} (representable : Representable value) :
    Representable (-value) := by
  obtain ⟨number, rfl⟩ := representable
  exact ⟨number.negate, value_negate number⟩

theorem representable_neg_iff (value : Rat) :
    Representable (-value) ↔ Representable value := by
  constructor
  · intro representable
    rw [← neg_neg value]
    exact representable.neg
  · exact Representable.neg

theorem representable_value_iff (numeral : Numeral) :
    Representable numeral.value ↔ Representable numeral.size := by
  unfold Numeral.value
  split
  · exact representable_neg_iff _
  · exact Iff.rfl

/--
A value that reading keeps as far as it reads on: one with few enough decimals for
the scale, and with a small enough coefficient unless it is whole.
-/
def Fits (value : Rat) : Prop :=
  ∃ units decimals : Nat, decimals ≤ 28 ∧ (decimals = 0 ∨ units < 2 ^ 96) ∧
    value = units / 10 ^ decimals

theorem Representable.fits {value : Rat} (representable : Representable value)
    (nonneg : 0 ≤ value) : Fits value := by
  obtain ⟨number, rfl⟩ := representable
  refine ⟨number.coefficient.natAbs, number.scale, number.scale_le, .inr number.bounded, ?_⟩
  rw [value_eq_div, ← natAbs_coefficient_of_nonneg nonneg]
  rfl

theorem fits_natCast (number : Nat) : Fits number :=
  ⟨number, 0, by decide, .inl rfl, by simp⟩

theorem value_of_ofParts? {coefficient : Int} {scale : Nat} {number : Decimal}
    (made : ofParts? coefficient scale = some number) :
    number.value = coefficient / 10 ^ scale := by
  unfold ofParts? at made
  split_ifs at made
  cases made
  exact value_eq_div _

end Decimal

end Clearing
