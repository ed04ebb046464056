import Clearing.Proofs.Decimal.Value
import Mathlib.Algebra.Order.Field.Basic
import Mathlib.Algebra.Order.Ring.Abs
/-!
Sums and differences without rounding.  A sum is squeezed into the bounds of a
coefficient only by dropping zeros, as long as its value is a whole number of
units small enough to be a coefficient itself.
-/

namespace Clearing.Decimal

theorem exists_ofParts?
    {coefficient : Int} {scale : Nat}
    (bounded : coefficient.natAbs < 2 ^ 96) (shorter : scale ≤ 28) :
    ∃ number, ofParts? coefficient scale = some number ∧
      number.value = coefficient / 10 ^ scale := by
  refine ⟨_, by rw [ofParts?, dif_pos bounded, dif_pos shorter], ?_⟩
  exact value_eq_div _

theorem divideHalfEven_of_dvd
    {numerator denominator : Nat} (positive : 0 < denominator)
    (divides : denominator ∣ numerator) :
    divideHalfEven numerator denominator = numerator / denominator := by
  have remainder : numerator % denominator = 0 := Nat.mod_eq_zero_of_dvd divides
  simp [divideHalfEven, remainder, positive]

/-- Squeezing stops before it reaches a digit that is not zero. -/
theorem squeeze_exact
    {size spare dropped scale : Nat}
    (divides : 10 ^ spare ∣ size) (fits : size / 10 ^ spare < 2 ^ 96)
    (atMost : dropped ≤ spare) (reachable : spare ≤ dropped + scale) :
    ∃ coefficient kept,
      squeeze size dropped scale = some (coefficient, kept) ∧
      coefficient < 2 ^ 96 ∧ kept ≤ scale ∧
      coefficient * 10 ^ (dropped + scale - kept) = size := by
  induction scale generalizing dropped with
  | zero =>
      have same : dropped = spare := by omega
      subst same
      have rounded := divideHalfEven_of_dvd (by positivity) divides
      refine ⟨size / 10 ^ dropped, 0, ?_, fits, Nat.le_refl 0, ?_⟩
      · simp only [squeeze, rounded]
        rw [if_pos fits]
      · simpa using Nat.div_mul_cancel divides
  | succ scale inductionHypothesis =>
      have whole : 10 ^ dropped ∣ size :=
        Nat.dvd_trans (Nat.pow_dvd_pow 10 atMost) divides
      by_cases small : size / 10 ^ dropped < 2 ^ 96
      · have rounded := divideHalfEven_of_dvd (by positivity) whole
        refine ⟨size / 10 ^ dropped, scale + 1, ?_, small, Nat.le_refl _, ?_⟩
        · simp only [squeeze, rounded]
          rw [if_pos small, if_pos small]
        · simpa using Nat.div_mul_cancel whole
      · have different : dropped ≠ spare := fun same => small (same ▸ fits)
        obtain ⟨coefficient, kept, squeezed, bounded, shorter, equation⟩ :=
          inductionHypothesis (by omega : dropped + 1 ≤ spare) (by omega)
        refine ⟨coefficient, kept, ?_, bounded, by omega, ?_⟩
        · simp only [squeeze]
          rw [if_neg small, squeezed]
        · rw [← equation]
          congr 2
          omega

/-- A whole number of units leaves zeros behind its decimals. -/
theorem exists_units_of_wholeAt
    {coefficient : Int} {scale decimals : Nat} {total : Rat}
    (written : total = coefficient / 10 ^ scale)
    (whole : ∃ units : Int, total * 10 ^ decimals = units)
    (bounded : |total| * 10 ^ decimals < 2 ^ 96) :
    10 ^ (scale - decimals) ∣ coefficient.natAbs ∧
      coefficient.natAbs / 10 ^ (scale - decimals) < 2 ^ 96 := by
  obtain ⟨units, equation⟩ := whole
  by_cases longer : decimals ≤ scale
  · have product : coefficient = units * 10 ^ (scale - decimals) := by
      have rational : (coefficient : Rat) = units * 10 ^ (scale - decimals) := by
        rw [← equation, written, ← pow_sub_mul_pow (10 : Rat) longer]
        field_simp
      exact_mod_cast rational
    have sizes : coefficient.natAbs = units.natAbs * 10 ^ (scale - decimals) := by
      rw [product, Int.natAbs_mul, Int.natAbs_pow]
      rfl
    have small : units.natAbs < 2 ^ 96 := by
      rw [← abs_of_pos (show (0 : Rat) < 10 ^ decimals by positivity), ← abs_mul,
        equation] at bounded
      have cast : ((units.natAbs : Int) : Rat) < 2 ^ 96 := by
        rw [Int.natCast_natAbs]
        exact_mod_cast bounded
      exact_mod_cast cast
    rw [sizes, Nat.mul_div_cancel _ (by positivity)]
    exact ⟨Nat.dvd_mul_left _ _, small⟩
  · have none : scale - decimals = 0 := by omega
    rw [none, pow_zero, Nat.div_one]
    refine ⟨Nat.one_dvd _, ?_⟩
    have fewer : (10 : Rat) ^ scale ≤ 10 ^ decimals :=
      pow_le_pow_right₀ (by norm_num) (by omega)
    have size : |total| * 10 ^ scale = (coefficient.natAbs : Int) := by
      rw [written, abs_div, abs_of_pos (show (0 : Rat) < 10 ^ scale by positivity),
        Int.natCast_natAbs]
      push_cast
      field_simp
    have below : ((coefficient.natAbs : Int) : Rat) < 2 ^ 96 := by
      rw [← size]
      exact lt_of_le_of_lt
        (mul_le_mul_of_nonneg_left fewer (abs_nonneg total)) bounded
    exact_mod_cast below

theorem value_eq_aligned (number : Decimal) {scale : Nat}
    (shorter : number.scale ≤ scale) :
    number.value =
      (number.coefficient * 10 ^ (scale - number.scale) : Int) / 10 ^ scale := by
  rw [value_eq_div, ← pow_sub_mul_pow (10 : Rat) shorter]
  push_cast
  field_simp

def total (left right : Decimal) : Int :=
  left.coefficient * 10 ^ (max left.scale right.scale - left.scale) +
    right.coefficient * 10 ^ (max left.scale right.scale - right.scale)

theorem value_add_value (left right : Decimal) :
    left.value + right.value = left.total right / 10 ^ max left.scale right.scale := by
  rw [left.value_eq_aligned (Nat.le_max_left left.scale right.scale),
    right.value_eq_aligned (Nat.le_max_right left.scale right.scale), ← add_div]
  push_cast [total]
  rfl

theorem natAbs_sign_mul_lt (total : Int) {coefficient : Nat} (bounded : coefficient < 2 ^ 96) :
    (total.sign * (coefficient : Int)).natAbs < 2 ^ 96 := by
  rw [Int.natAbs_mul, Int.natAbs_natCast]
  have signSmall : total.sign.natAbs ≤ 1 := by
    rcases Int.sign_trichotomy total with one | zero | minus <;> omega
  calc total.sign.natAbs * coefficient ≤ 1 * coefficient :=
        Nat.mul_le_mul_right _ signSmall
    _ < 2 ^ 96 := by omega

theorem exists_squeezed
    {total : Int} {scale spare : Nat} (shorter : scale ≤ 28)
    (divides : 10 ^ spare ∣ total.natAbs) (fits : total.natAbs / 10 ^ spare < 2 ^ 96)
    (reachable : spare ≤ scale) :
    ∃ number : Decimal,
      ((squeeze total.natAbs 0 scale).bind fun fitted =>
        ofParts? (total.sign * fitted.1) fitted.2) = some number ∧
      number.value = total / 10 ^ scale := by
  obtain ⟨coefficient, kept, squeezed, small, keptShorter, equation⟩ :=
    squeeze_exact divides fits (Nat.zero_le _) (by omega : spare ≤ 0 + scale)
  rw [Nat.zero_add] at equation
  have signed : total = total.sign * coefficient * 10 ^ (scale - kept) := by
    conv_lhs => rw [← Int.sign_mul_natAbs total, ← equation]
    push_cast
    ring
  obtain ⟨number, made, value⟩ :=
    exists_ofParts? (natAbs_sign_mul_lt total small)
      (Nat.le_trans keptShorter shorter)
  refine ⟨number, ?_, ?_⟩
  · rw [squeezed]
    exact made
  · have product : (total : Rat) =
        (total.sign * (coefficient : Int) : Int) * 10 ^ (scale - kept) := by
      exact_mod_cast signed
    rw [value, product, ← pow_sub_mul_pow (10 : Rat) keptShorter]
    field_simp

/--
Numbers with few decimals are added exactly, provided that their sum, counted in
units of the last decimal, fits a coefficient.
-/
theorem add?_exact
    {left right : Decimal} {decimals : Nat}
    (leftWhole : left.WholeAt decimals) (rightWhole : right.WholeAt decimals)
    (bounded : |left.value + right.value| * 10 ^ decimals < 2 ^ 96) :
    ∃ sum, left.add? right = some sum ∧
      sum.value = left.value + right.value := by
  by_cases leftZero : left.coefficient = 0
  · refine ⟨right, by rw [add?, if_pos leftZero], ?_⟩
    simp [value_eq_div left, leftZero]
  by_cases rightZero : right.coefficient = 0
  · refine ⟨left, by rw [add?, if_neg leftZero, if_pos rightZero], ?_⟩
    simp [value_eq_div right, rightZero]
  have total := left.value_add_value right
  have shorter : max left.scale right.scale ≤ 28 :=
    Nat.max_le.mpr ⟨left.scale_le, right.scale_le⟩
  have whole := leftWhole.exists_units_add rightWhole
  obtain ⟨divides, fits⟩ := exists_units_of_wholeAt total whole bounded
  obtain ⟨sum, made, sumValue⟩ :=
    exists_squeezed shorter divides fits (Nat.sub_le (max left.scale right.scale) decimals)
  refine ⟨sum, ?_, sumValue.trans total.symm⟩
  rw [add?, if_neg leftZero, if_neg rightZero]
  exact made

theorem sub?_exact
    {left right : Decimal} {decimals : Nat}
    (leftWhole : left.WholeAt decimals) (rightWhole : right.WholeAt decimals)
    (bounded : |left.value - right.value| * 10 ^ decimals < 2 ^ 96) :
    ∃ difference, left.sub? right = some difference ∧
      difference.value = left.value - right.value := by
  have sums : left.value + right.negate.value = left.value - right.value := by
    rw [value_negate, sub_eq_add_neg]
  rw [← sums] at bounded ⊢
  exact add?_exact leftWhole rightWhole.negate bounded

end Clearing.Decimal
