import Clearing.Proofs.Decimal.Rounding
import Clearing.Proofs.Money.Amount
/-!
Sums that are rounded.  However many digits a sum loses, it is above the largest amount only if
the exact sum is, and it is missing only if the exact sum has more digits than a coefficient.
-/

namespace Clearing.Decimal

theorem divideHalfEven_le {numerator denominator bound : Nat} (positive : 0 < denominator)
    (fits : numerator ≤ bound * denominator) :
    divideHalfEven numerator denominator ≤ bound := by
  obtain ⟨low, _, _⟩ := divideHalfEven_bounds numerator positive
  have scaled : 2 * divideHalfEven numerator denominator * denominator <
      (2 * bound + 2) * denominator := by
    calc 2 * divideHalfEven numerator denominator * denominator
        = 2 * (divideHalfEven numerator denominator * denominator) := Nat.mul_assoc _ _ _
      _ ≤ 2 * (bound * denominator) + denominator := by omega
      _ < (2 * bound + 2) * denominator := by
        rw [Nat.add_mul, Nat.mul_assoc]
        omega
  have halves := Nat.lt_of_mul_lt_mul_right scaled
  omega

/-- What is left of a number of digits behind the point after squeezing. -/
structure Squeezed (size dropped scale coefficient kept : Nat) : Prop where
  bounded : coefficient < 2 ^ 96
  kept_le : kept ≤ scale
  le_of_le : ∀ bound, size ≤ bound * 10 ^ (dropped + scale - kept) → coefficient ≤ bound
  /-- No more digits are dropped than have to be. -/
  large : kept < scale → (2 ^ 96 - 1) * 10 ^ (dropped + scale - kept - 1) ≤ size

theorem squeezed_of_rounded {size dropped : Nat} (scale : Nat)
    (bounded : divideHalfEven size (10 ^ dropped) < 2 ^ 96) :
    Squeezed size dropped scale (divideHalfEven size (10 ^ dropped)) scale where
  bounded := bounded
  kept_le := Nat.le_refl scale
  le_of_le bound fits := by
    rw [Nat.add_sub_cancel] at fits
    exact divideHalfEven_le (by positivity) fits
  large further := absurd further (Nat.lt_irrefl scale)

/-- Where rounding reaches the bound itself, one digit more is dropped. -/
theorem squeezed_of_carried {size dropped : Nat} (scale : Nat)
    (small : size / 10 ^ dropped < 2 ^ 96)
    (carried : ¬ divideHalfEven size (10 ^ dropped) < 2 ^ 96) :
    Squeezed size dropped (scale + 1)
      (divideHalfEven (divideHalfEven size (10 ^ dropped)) 10) scale := by
  have positive : 0 < 10 ^ dropped := by positivity
  have floor : size < 2 ^ 96 * 10 ^ dropped := (Nat.div_lt_iff_lt_mul positive).mp small
  have ceiling : divideHalfEven size (10 ^ dropped) ≤ 2 ^ 96 :=
    divideHalfEven_le positive (Nat.le_of_lt floor)
  have one : dropped + (scale + 1) - scale = dropped + 1 := by omega
  constructor
  · have tenth : divideHalfEven (divideHalfEven size (10 ^ dropped)) 10 ≤ 2 ^ 93 :=
      divideHalfEven_le (by decide) (by omega)
    exact Nat.lt_of_le_of_lt tenth (by decide)
  · exact Nat.le_succ scale
  · intro bound fits
    rw [one, Nat.pow_succ', ← Nat.mul_assoc] at fits
    exact divideHalfEven_le (by decide) (divideHalfEven_le positive fits)
  · intro _
    rw [one, Nat.add_sub_cancel]
    by_contra smaller
    exact carried (Nat.lt_of_le_of_lt
      (divideHalfEven_le positive (Nat.le_of_not_ge smaller)) (by decide))

theorem squeezed_of_squeeze {size dropped scale coefficient kept : Nat}
    (squeezed : squeeze size dropped scale = some (coefficient, kept)) :
    Squeezed size dropped scale coefficient kept := by
  induction scale generalizing dropped with
  | zero =>
      unfold squeeze at squeezed
      dsimp only at squeezed
      split at squeezed
      · rename_i bounded
        cases squeezed
        exact squeezed_of_rounded 0 bounded
      · cases squeezed
  | succ scale inductionHypothesis =>
      unfold squeeze at squeezed
      dsimp only at squeezed
      split at squeezed
      · rename_i small
        split at squeezed
        · rename_i bounded
          cases squeezed
          exact squeezed_of_rounded (scale + 1) bounded
        · rename_i carried
          cases squeezed
          exact squeezed_of_carried _ small carried
      · rename_i big
        have shorter := inductionHypothesis squeezed
        have digits : dropped + 1 + scale = dropped + (scale + 1) := by omega
        refine ⟨shorter.bounded, Nat.le_succ_of_le shorter.kept_le, ?_, fun _ => ?_⟩
        · rw [← digits]
          exact shorter.le_of_le
        · rw [← digits]
          rcases Nat.lt_or_eq_of_le shorter.kept_le with further | rfl
          · exact shorter.large further
          · rw [Nat.add_sub_cancel, Nat.add_sub_cancel]
            have least := (Nat.le_div_iff_mul_le (by positivity)).mp (Nat.le_of_not_lt big)
            exact Nat.le_trans (Nat.mul_le_mul_right _ (by decide)) least

theorem exists_squeeze {size dropped scale : Nat}
    (fits : size ≤ (2 ^ 96 - 1) * 10 ^ (dropped + scale)) :
    ∃ coefficient kept, squeeze size dropped scale = some (coefficient, kept) := by
  induction scale generalizing dropped with
  | zero =>
      have bounded : divideHalfEven size (10 ^ dropped) < 2 ^ 96 :=
        Nat.lt_of_le_of_lt (divideHalfEven_le (by positivity) fits) (by decide)
      exact ⟨_, _, if_pos bounded⟩
  | succ scale inductionHypothesis =>
      unfold squeeze
      dsimp only
      split
      · split <;> exact ⟨_, _, rfl⟩
      · apply inductionHypothesis
        rwa [Nat.add_assoc, Nat.add_comm 1]

theorem abs_value_le (number : Decimal) : |number.value| ≤ 2 ^ 96 - 1 := by
  have size : (number.coefficient.natAbs : Rat) ≤ 2 ^ 96 - 1 := by
    have bounded := number.bounded
    have whole : number.coefficient.natAbs + 1 ≤ 2 ^ 96 := bounded
    have cast : (number.coefficient.natAbs : Rat) + 1 ≤ 2 ^ 96 := by exact_mod_cast whole
    linarith
  rw [value_eq_div, abs_div, abs_of_pos (show (0 : Rat) < 10 ^ number.scale by positivity)]
  have cast : |(number.coefficient : Rat)| = number.coefficient.natAbs := by
    rw [Nat.cast_natAbs, Int.cast_abs]
  rw [cast]
  calc (number.coefficient.natAbs : Rat) / 10 ^ number.scale
      ≤ number.coefficient.natAbs :=
        div_le_self (by positivity) (one_le_pow₀ (by norm_num))
    _ ≤ 2 ^ 96 - 1 := size

/-- What adding two numbers comes to. -/
inductive AddCase (left right : Decimal) : Option Decimal → Prop where
  | leftZero :
      left.coefficient = 0 →
      AddCase left right (some right)
  | rightZero :
      right.coefficient = 0 →
      AddCase left right (some left)
  | missing :
      squeeze (left.total right).natAbs 0 (max left.scale right.scale) = none →
      AddCase left right none
  | squeezed (sum : Decimal) (coefficient kept : Nat) :
      Squeezed (left.total right).natAbs 0 (max left.scale right.scale) coefficient kept →
      sum.value = ((left.total right).sign * coefficient : Int) / 10 ^ kept →
      AddCase left right (some sum)

theorem addCase (left right : Decimal) : AddCase left right (left.add? right) := by
  unfold add?
  split
  · rename_i zero
    exact .leftZero zero
  · split
    · rename_i zero
      exact .rightZero zero
    · change AddCase left right
        ((squeeze (left.total right).natAbs 0 (max left.scale right.scale)).bind fun fitted =>
          ofParts? ((left.total right).sign * fitted.1) fitted.2)
      cases squeezed : squeeze (left.total right).natAbs 0 (max left.scale right.scale) with
      | none => exact .missing squeezed
      | some fitted =>
          obtain ⟨coefficient, kept⟩ := fitted
          have spec := squeezed_of_squeeze squeezed
          have shorter : kept ≤ 28 :=
            Nat.le_trans spec.kept_le (Nat.max_le.mpr ⟨left.scale_le, right.scale_le⟩)
          obtain ⟨sum, made, value⟩ :=
            exists_ofParts? (natAbs_sign_mul_lt (left.total right) spec.bounded) shorter
          rw [Option.bind_some, made]
          exact .squeezed sum coefficient kept spec value

theorem natAbs_total_le_of_abs_le {left right : Decimal} {bound : Nat}
    (bounded : |left.value + right.value| ≤ bound) :
    (left.total right).natAbs ≤ bound * 10 ^ max left.scale right.scale := by
  rw [value_add_value, abs_div,
    abs_of_pos (show (0 : Rat) < 10 ^ max left.scale right.scale by positivity),
    div_le_iff₀ (by positivity), ← Int.cast_abs, ← Int.natCast_natAbs] at bounded
  exact_mod_cast bounded

/-- A sum that is no longer than a coefficient is never missing. -/
theorem exists_add? {left right : Decimal}
    (bounded : |left.value + right.value| ≤ 2 ^ 96 - 1) :
    ∃ sum, left.add? right = some sum := by
  have added := left.addCase right
  generalize left.add? right = sum? at added
  cases added with
  | leftZero _ | rightZero _ | squeezed _ _ _ _ _ => exact ⟨_, rfl⟩
  | missing none =>
      have fits : (left.total right).natAbs ≤
          (2 ^ 96 - 1) * 10 ^ (0 + max left.scale right.scale) := by
        rw [Nat.zero_add]
        apply natAbs_total_le_of_abs_le
        norm_num at bounded ⊢
        exact bounded
      obtain ⟨coefficient, kept, some⟩ := exists_squeeze fits
      rw [none] at some
      cases some

/--
A number of decimals that is left of a sum no larger than the largest amount is the number of all
of its decimals or enough for those of the amount.
-/
theorem Squeezed.le_maximum {size scale coefficient kept : Nat}
    (squeezed : Squeezed size 0 scale coefficient kept)
    (fits : 100 * size ≤ 99999999999999999999 * 10 ^ scale) :
    100 * coefficient ≤ 99999999999999999999 * 10 ^ kept := by
  have shorter := squeezed.kept_le
  have cut := squeezed.le_of_le
  have digits : 0 + scale - kept = scale - kept := by omega
  rw [digits] at cut
  rcases Nat.lt_or_eq_of_le shorter with further | rfl
  · have enough : 2 ≤ kept := by
      by_contra few
      have large := squeezed.large further
      have short : 10 ^ scale ≤ 100 * 10 ^ (0 + scale - kept - 1) := by
        calc 10 ^ scale ≤ 10 ^ (2 + (0 + scale - kept - 1)) :=
              Nat.pow_le_pow_right (by decide) (by omega)
          _ = 100 * 10 ^ (0 + scale - kept - 1) := by rw [Nat.pow_add]
      have positive : 0 < 10 ^ (0 + scale - kept - 1) := by positivity
      generalize 10 ^ (0 + scale - kept - 1) = unit at large short positive
      omega
    have parts : 10 ^ scale = 100 * (10 ^ (kept - 2) * 10 ^ (scale - kept)) := by
      rw [← Nat.pow_add, show 100 = 10 ^ 2 from rfl, ← Nat.pow_add]
      congr 1
      omega
    have last : 10 ^ kept = 100 * 10 ^ (kept - 2) := by
      rw [show 100 = 10 ^ 2 from rfl, ← Nat.pow_add]
      congr 1
      omega
    have whole := cut (99999999999999999999 * 10 ^ (kept - 2)) (by
      rw [parts] at fits
      rw [Nat.mul_assoc]
      generalize 10 ^ (kept - 2) * 10 ^ (scale - kept) = unit at fits ⊢
      omega)
    rw [last]
    generalize 10 ^ (kept - 2) = unit at whole ⊢
    omega
  · have whole := cut size (by simp)
    omega

/-- Rounding brings no sum above the largest amount. -/
theorem value_le_maximum_of_add? {left right sum : Decimal}
    (added : left.add? right = some sum)
    (fits : left.value + right.value ≤ maximumAmount.value) :
    sum.value ≤ maximumAmount.value := by
  have added' := left.addCase right
  rw [added] at added'
  cases added' with
  | leftZero zero =>
      rwa [value_eq_div left, zero, Int.cast_zero, zero_div, zero_add] at fits
  | rightZero zero =>
      rwa [value_eq_div right, zero, Int.cast_zero, zero_div, add_zero] at fits
  | squeezed _ coefficient kept squeezed value =>
      rw [value_add_value, value_maximumAmount] at fits
      rw [value, value_maximumAmount]
      rcases le_or_gt (left.total right) 0 with negative | positive
      · have sign : (left.total right).sign * (coefficient : Int) ≤ 0 :=
          Int.mul_nonpos_of_nonpos_of_nonneg (Int.sign_nonpos_iff.mpr negative)
            (Int.natCast_nonneg coefficient)
        have cast : (((left.total right).sign * (coefficient : Int) : Int) : Rat) ≤ 0 := by
          exact_mod_cast sign
        exact le_trans (div_nonpos_of_nonpos_of_nonneg cast (by positivity)) (by norm_num)
      · have size : ((left.total right).natAbs : Int) = left.total right := by omega
        have whole : 100 * (left.total right).natAbs ≤
            99999999999999999999 * 10 ^ max left.scale right.scale := by
          rw [div_le_div_iff₀ (by positivity) (by norm_num)] at fits
          have exact : left.total right * 100 ≤
              99999999999999999999 * 10 ^ max left.scale right.scale := by exact_mod_cast fits
          rw [← size] at exact
          rw [Nat.mul_comm]
          exact_mod_cast exact
        have kept := squeezed.le_maximum whole
        rw [Int.sign_eq_one_of_pos positive, one_mul, div_le_div_iff₀ (by positivity)
          (by norm_num), mul_comm (_ : Rat) 100]
        exact_mod_cast kept

/--
A credit that is missing or above the largest amount would bring the balance above it, rounding
apart.
-/
theorem maximum_lt_of_uncredited {balance amount : Decimal} (positive : 0 < amount.value)
    (uncredited : ∀ credited, balance.add? amount = some credited → maximumAmount < credited) :
    maximumAmount.value < balance.value + amount.value := by
  by_contra fits
  rw [not_lt] at fits
  have least := (abs_le.mp balance.abs_value_le).1
  have most : maximumAmount.value ≤ 2 ^ 96 - 1 := by
    rw [value_maximumAmount]
    norm_num
  obtain ⟨credited, added⟩ : ∃ sum, balance.add? amount = some sum :=
    exists_add? (abs_le.mpr ⟨by linarith, le_trans fits most⟩)
  have exceeds := uncredited credited added
  rw [lt_iff_value_lt] at exceeds
  exact absurd (value_le_maximum_of_add? added fits) (not_le.mpr exceeds)

theorem exists_sub?_of_le {balance amount : Decimal} (positive : 0 < amount.value)
    (covered : amount.value ≤ balance.value) : ∃ left, balance.sub? amount = some left := by
  have most := (abs_le.mp balance.abs_value_le).2
  apply exists_add?
  rw [value_negate, abs_le]
  constructor <;> linarith

end Clearing.Decimal
