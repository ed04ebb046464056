import Clearing.Money.Amount
import Mathlib.Algebra.Order.Field.Rat
import Mathlib.Tactic.FieldSimp
import Mathlib.Tactic.Linarith
import Mathlib.Tactic.Ring
/-!
Decimal numbers by their values.  Comparisons look at the value only, and the
least number of decimals that writes a value tells how fine the value is.
-/

namespace Clearing.Decimal

theorem value_eq_div (number : Decimal) :
    number.value = number.coefficient / 10 ^ number.scale := by
  rw [value, Rat.mkRat_eq_div]
  push_cast
  rfl

@[simp]
theorem value_zero : zero.value = 0 := by
  simp [value_eq_div, zero]

@[simp]
theorem value_negate (number : Decimal) :
    number.negate.value = -number.value := by
  simp only [value_eq_div, negate]
  push_cast
  ring

theorem value_maximumAmount :
    maximumAmount.value = 99999999999999999999 / 100 := by
  rw [value_eq_div]
  norm_num [maximumAmount]

theorem div_pow_lt_div_pow_iff (first second : Int) (firstScale secondScale : Nat) :
    (first : Rat) / 10 ^ firstScale < second / 10 ^ secondScale ↔
      first * 10 ^ secondScale < second * 10 ^ firstScale := by
  rw [div_lt_div_iff₀ (by positivity) (by positivity)]
  exact_mod_cast Iff.rfl

theorem lt_iff_value_lt (left right : Decimal) :
    left < right ↔ left.value < right.value := by
  rw [value_eq_div, value_eq_div, div_pow_lt_div_pow_iff]
  rfl

theorem le_iff_not_lt (left right : Decimal) :
    left ≤ right ↔ ¬ right < left :=
  Int.not_lt.symm

theorem le_iff_value_le (left right : Decimal) :
    left ≤ right ↔ left.value ≤ right.value := by
  rw [le_iff_not_lt, lt_iff_value_lt, not_lt]

theorem sameValue_iff_value_eq (left right : Decimal) :
    left.SameValue right ↔ left.value = right.value := by
  rw [value_eq_div, value_eq_div,
    div_eq_div_iff (by positivity) (by positivity)]
  exact_mod_cast Iff.rfl

theorem natAbs_coefficient_of_nonneg {number : Decimal} (nonneg : 0 ≤ number.value) :
    (number.coefficient.natAbs : Int) = number.coefficient := by
  have positive : (0 : Rat) < 10 ^ number.scale := by positivity
  rw [value_eq_div, le_div_iff₀ positive, zero_mul] at nonneg
  exact Int.natAbs_of_nonneg (by exact_mod_cast nonneg)

/-- The value is a whole number of units of the given number of decimals. -/
def WholeAt (number : Decimal) (decimals : Nat) : Prop :=
  ∃ units : Int, number.value * 10 ^ decimals = units

theorem WholeAt.negate
    {number : Decimal} {decimals : Nat} (whole : number.WholeAt decimals) :
    number.negate.WholeAt decimals := by
  obtain ⟨units, equation⟩ := whole
  refine ⟨-units, ?_⟩
  rw [value_negate]
  push_cast
  linarith

theorem WholeAt.exists_units_add
    {left right : Decimal} {decimals : Nat}
    (leftWhole : left.WholeAt decimals) (rightWhole : right.WholeAt decimals) :
    ∃ units : Int, (left.value + right.value) * 10 ^ decimals = units := by
  obtain ⟨leftUnits, leftEquation⟩ := leftWhole
  obtain ⟨rightUnits, rightEquation⟩ := rightWhole
  refine ⟨leftUnits + rightUnits, ?_⟩
  rw [add_mul, leftEquation, rightEquation, Int.cast_add]

theorem WholeAt.of_value_eq_add
    {left right sum : Decimal} {decimals : Nat}
    (leftWhole : left.WholeAt decimals) (rightWhole : right.WholeAt decimals)
    (equation : sum.value = left.value + right.value) :
    sum.WholeAt decimals := by
  rw [WholeAt, equation]
  exact leftWhole.exists_units_add rightWhole

theorem withoutTrailingZeros_value (coefficient : Int) (scale : Nat) :
    (withoutTrailingZeros coefficient scale).2 ≤ scale ∧
      (withoutTrailingZeros coefficient scale).1 *
          10 ^ (scale - (withoutTrailingZeros coefficient scale).2) =
        coefficient := by
  induction scale generalizing coefficient with
  | zero => simp [withoutTrailingZeros]
  | succ scale inductionHypothesis =>
      simp only [withoutTrailingZeros]
      split
      · rename_i ends
        obtain ⟨shorter, equation⟩ := inductionHypothesis (coefficient / 10)
        refine ⟨by omega, ?_⟩
        rw [Nat.succ_sub shorter, pow_succ, ← mul_assoc, equation]
        exact Int.ediv_mul_cancel (Int.dvd_of_emod_eq_zero ends)
      · simp

theorem withoutTrailingZeros_reduced (coefficient : Int) (scale : Nat) :
    (withoutTrailingZeros coefficient scale).2 = 0 ∨
      ¬ (10 : Int) ∣ (withoutTrailingZeros coefficient scale).1 := by
  induction scale generalizing coefficient with
  | zero => exact .inl rfl
  | succ scale inductionHypothesis =>
      simp only [withoutTrailingZeros]
      split
      · exact inductionHypothesis (coefficient / 10)
      · rename_i ends
        exact .inr fun divides => ends (Int.emod_eq_zero_of_dvd divides)

theorem value_eq_significant (number : Decimal) :
    number.value =
      (withoutTrailingZeros number.coefficient number.scale).1 /
        10 ^ number.significantScale := by
  obtain ⟨shorter, equation⟩ :=
    withoutTrailingZeros_value number.coefficient number.scale
  have powers := pow_sub_mul_pow (10 : Rat) shorter
  rw [value_eq_div, div_eq_div_iff (by positivity) (by positivity), ← powers,
    ← mul_assoc]
  congr 1
  exact_mod_cast equation.symm

/-- The significant scale is the least number of decimals that the value has. -/
theorem significantScale_le_iff (number : Decimal) (decimals : Nat) :
    number.significantScale ≤ decimals ↔ number.WholeAt decimals := by
  have written := value_eq_significant number
  set kept := (withoutTrailingZeros number.coefficient number.scale).1
  constructor
  · intro fits
    refine ⟨kept * 10 ^ (decimals - number.significantScale), ?_⟩
    rw [written, ← pow_sub_mul_pow (10 : Rat) fits]
    push_cast
    field_simp
  · rintro ⟨units, equation⟩
    by_contra exceeds
    rw [written, div_mul_eq_mul_div, div_eq_iff (by positivity)] at equation
    have whole : kept * 10 ^ decimals =
        units * 10 ^ number.significantScale := by exact_mod_cast equation
    have powers : (10 : Int) ^ number.significantScale =
        10 * 10 ^ (number.significantScale - decimals - 1) * 10 ^ decimals := by
      rw [← pow_succ', ← pow_add]
      congr 1
      omega
    rw [powers, ← mul_assoc] at whole
    have divisible : kept =
        units * (10 * 10 ^ (number.significantScale - decimals - 1)) :=
      mul_right_cancel₀ (by positivity) whole
    rcases withoutTrailingZeros_reduced number.coefficient number.scale with
      none | reduced
    · exact exceeds (Nat.le_trans (Nat.le_of_eq none) (Nat.zero_le _))
    · exact reduced ⟨units * 10 ^ (number.significantScale - decimals - 1), by
        rw [show (withoutTrailingZeros number.coefficient number.scale).1 = kept
          from rfl, divisible]
        ring⟩

theorem significantScale_isLeast (number : Decimal) :
    IsLeast {decimals | number.WholeAt decimals} number.significantScale := by
  refine ⟨(number.significantScale_le_iff _).mp (Nat.le_refl _), ?_⟩
  intro decimals whole
  exact (number.significantScale_le_iff decimals).mpr whole

theorem wholeAt_iff_of_value_eq
    {number other : Decimal} (sameValue : other.value = number.value) (decimals : Nat) :
    other.WholeAt decimals ↔ number.WholeAt decimals := by
  rw [WholeAt, sameValue, ← WholeAt]

theorem significantScale_eq_of_value_eq
    {number other : Decimal} (sameValue : other.value = number.value) :
    other.significantScale = number.significantScale := by
  refine other.significantScale_isLeast.unique ?_
  simp only [wholeAt_iff_of_value_eq sameValue]
  exact number.significantScale_isLeast

end Clearing.Decimal
