import Clearing.Decimal.Binary64
import Clearing.Proofs.Decimal.Sum
import Mathlib.Algebra.Order.Field.Power
import Mathlib.Tactic.Positivity
/-!
Rounding a fraction to binary floating point.  A fraction that a number of the format can hold
is kept; any other one lies between the bounds of the number that it is rounded to.
-/

namespace Clearing.Decimal

/-- Rounding goes at most half a unit away, and to an even quotient when it goes that far. -/
theorem divideHalfEven_bounds (numerator : Nat) {denominator : Nat} (positive : 0 < denominator) :
    2 * (divideHalfEven numerator denominator * denominator) ≤ 2 * numerator + denominator ∧
      2 * numerator ≤ 2 * (divideHalfEven numerator denominator * denominator) + denominator ∧
      (divideHalfEven numerator denominator % 2 = 1 →
        2 * (divideHalfEven numerator denominator * denominator) <
            2 * numerator + denominator ∧
          2 * numerator <
            2 * (divideHalfEven numerator denominator * denominator) + denominator) := by
  have division := Nat.div_add_mod numerator denominator
  have small := Nat.mod_lt numerator positive
  rw [mul_comm] at division
  unfold divideHalfEven
  dsimp only
  generalize numerator / denominator = quotient at division
  generalize numerator % denominator = remainder at division small
  split
  · rename_i down
    refine ⟨by omega, by omega, fun odd => ⟨by omega, ?_⟩⟩
    rcases down with less | ⟨_, even⟩ <;> omega
  · rename_i up
    rw [not_or, not_and] at up
    rw [Nat.add_mul, Nat.one_mul]
    refine ⟨by omega, by omega, fun odd => ⟨?_, by omega⟩⟩
    by_contra tie
    have exactly : 2 * remainder = denominator := by omega
    have even := up.2 exactly
    omega

/-- A whole number that a fraction is rounded to. -/
structure IsRounding (rounded : Nat) (fraction : Rat) : Prop where
  low : (2 * rounded - 1 : Rat) ≤ 2 * fraction
  high : 2 * fraction ≤ 2 * rounded + 1
  odd : rounded % 2 = 1 → (2 * rounded - 1 : Rat) < 2 * fraction ∧ 2 * fraction < 2 * rounded + 1
  floor : ∀ whole : Nat, (whole : Rat) ≤ fraction → whole ≤ rounded

theorem div_le_divideHalfEven (numerator denominator : Nat) :
    numerator / denominator ≤ divideHalfEven numerator denominator := by
  unfold divideHalfEven
  dsimp only
  split
  · exact Nat.le_refl _
  · exact Nat.le_succ _

theorem isRounding_divideHalfEven (numerator : Nat) {denominator : Nat}
    (positive : 0 < denominator) :
    IsRounding (divideHalfEven numerator denominator) (numerator / denominator) := by
  obtain ⟨low, high, odd⟩ := divideHalfEven_bounds numerator positive
  have above := div_le_divideHalfEven numerator denominator
  generalize divideHalfEven numerator denominator = quotient at low high odd above
  have castPositive : (0 : Rat) < denominator := by exact_mod_cast positive
  have shape : 2 * (numerator / denominator : Rat) = (2 * numerator : Rat) / denominator :=
    (mul_div_assoc _ _ _).symm
  constructor
  · have lowCast : (2 * (quotient * denominator) : Rat) ≤ 2 * numerator + denominator := by
      exact_mod_cast low
    rw [shape, le_div_iff₀ castPositive]
    linarith
  · have highCast : (2 * numerator : Rat) ≤ 2 * (quotient * denominator) + denominator := by
      exact_mod_cast high
    rw [shape, div_le_iff₀ castPositive]
    linarith
  · intro isOdd
    obtain ⟨lowStrict, highStrict⟩ := odd isOdd
    have lowCast : (2 * (quotient * denominator) : Rat) < 2 * numerator + denominator := by
      exact_mod_cast lowStrict
    have highCast : (2 * numerator : Rat) < 2 * (quotient * denominator) + denominator := by
      exact_mod_cast highStrict
    rw [shape, lt_div_iff₀ castPositive, div_lt_iff₀ castPositive]
    constructor <;> linarith
  · intro whole below
    rw [le_div_iff₀ castPositive] at below
    apply le_trans _ above
    rw [Nat.le_div_iff_mul_le positive]
    exact_mod_cast below

theorem IsRounding.eq_of_natCast {rounded whole : Nat} (rounding : IsRounding rounded whole) :
    rounded = whole := by
  have low : (2 * rounded : Rat) ≤ 2 * whole + 1 := by linarith [rounding.low]
  have high : (2 * whole : Rat) ≤ 2 * rounded + 1 := rounding.high
  norm_cast at low high
  omega

end Clearing.Decimal

namespace Clearing.Binary64

def value (number : Binary64) : Rat := number.significand * 2 ^ number.exponent

theorem scaled_positive (numerator : Nat) {denominator : Nat} (positive : 0 < denominator)
    (twos : Int) :
    0 < (scaled numerator denominator twos).2 :=
  Nat.mul_pos positive (Nat.two_pow_pos _)

theorem scaled_ratio (numerator denominator : Nat) (twos : Int) :
    ((scaled numerator denominator twos).1 : Rat) / (scaled numerator denominator twos).2 =
      numerator / denominator * 2 ^ twos := by
  unfold scaled
  obtain ⟨count, rfl | rfl⟩ := twos.eq_nat_or_neg
  · rw [Int.toNat_natCast, Int.toNat_neg_natCast, zpow_natCast]
    push_cast
    rw [mul_one, mul_div_right_comm]
  · rw [Int.toNat_neg_natCast, neg_neg, Int.toNat_natCast, zpow_neg, zpow_natCast]
    push_cast
    rw [mul_one, ← div_div, div_eq_mul_inv]

theorem fraction_ratio (number : Binary64) :
    (number.fraction.1 : Rat) / number.fraction.2 = number.value := by
  rw [fraction, scaled_ratio, Nat.cast_one, div_one, value]

theorem fraction_positive (number : Binary64) : 0 < number.fraction.2 :=
  scaled_positive 1 Nat.one_pos _

section LastPlace

variable {numerator denominator : Nat}

/-- A quotient lies between the powers of two that the sizes of its parts give. -/
theorem ratio_between_powers (numeratorPositive : 0 < numerator)
    (denominatorPositive : 0 < denominator) :
    (2 : Rat) ^ ((numerator.log2 : Int) - denominator.log2 - 1) ≤ numerator / denominator ∧
      (numerator : Rat) / denominator < 2 ^ ((numerator.log2 : Int) - denominator.log2 + 1) := by
  have numeratorLow : (2 : Rat) ^ (numerator.log2 : Int) ≤ numerator := by
    rw [zpow_natCast]
    exact_mod_cast Nat.log2_self_le numeratorPositive.ne'
  have numeratorHigh : (numerator : Rat) < 2 ^ ((numerator.log2 : Int) + 1) := by
    exact_mod_cast Nat.lt_log2_self
  have denominatorLow : (2 : Rat) ^ (denominator.log2 : Int) ≤ denominator := by
    rw [zpow_natCast]
    exact_mod_cast Nat.log2_self_le denominatorPositive.ne'
  have denominatorHigh : (denominator : Rat) < 2 ^ ((denominator.log2 : Int) + 1) := by
    exact_mod_cast Nat.lt_log2_self
  have positive : (0 : Rat) < denominator := by exact_mod_cast denominatorPositive
  constructor
  · rw [le_div_iff₀ positive]
    calc (2 : Rat) ^ ((numerator.log2 : Int) - denominator.log2 - 1) * denominator
        ≤ 2 ^ ((numerator.log2 : Int) - denominator.log2 - 1) *
            2 ^ ((denominator.log2 : Int) + 1) :=
          mul_le_mul_of_nonneg_left denominatorHigh.le (by positivity)
      _ = 2 ^ (numerator.log2 : Int) := by
          rw [← zpow_add₀ (by norm_num)]
          congr 1
          ring
      _ ≤ numerator := numeratorLow
  · rw [div_lt_iff₀ positive]
    calc (numerator : Rat) < 2 ^ ((numerator.log2 : Int) + 1) := numeratorHigh
      _ = 2 ^ ((numerator.log2 : Int) - denominator.log2 + 1) *
            2 ^ (denominator.log2 : Int) := by
          rw [← zpow_add₀ (by norm_num)]
          congr 1
          ring
      _ ≤ 2 ^ ((numerator.log2 : Int) - denominator.log2 + 1) * denominator :=
          mul_le_mul_of_nonneg_left denominatorLow (by positivity)

/-- The last place of 53 binary digits, whether the range reaches it or not. -/
def freePlace (numerator denominator : Nat) : Int :=
  let low : Int := numerator.log2 - denominator.log2 - 53
  let fraction := scaled numerator denominator (-low)
  if fraction.1 / fraction.2 < 2 ^ 53 then low else low + 1

theorem lastPlace_eq (numerator denominator : Nat) :
    lastPlace numerator denominator = max (freePlace numerator denominator) (-1074) :=
  rfl

theorem freePlace_spec (numeratorPositive : 0 < numerator)
    (denominatorPositive : 0 < denominator) :
    (numerator : Rat) / denominator < 2 ^ (freePlace numerator denominator + 53) ∧
      (2 : Rat) ^ (freePlace numerator denominator + 52) ≤ numerator / denominator := by
  obtain ⟨above, below⟩ := ratio_between_powers numeratorPositive denominatorPositive
  unfold freePlace
  dsimp only
  set low : Int := (numerator.log2 : Int) - denominator.log2 - 53 with lowEq
  have positive := scaled_positive numerator denominatorPositive (-low)
  have castPositive : (0 : Rat) < (scaled numerator denominator (-low)).2 := by
    exact_mod_cast positive
  have shifted : (numerator : Rat) / denominator =
      (scaled numerator denominator (-low)).1 / (scaled numerator denominator (-low)).2 *
        2 ^ low := by
    rw [scaled_ratio numerator denominator (-low), mul_assoc, ← zpow_add₀ (by norm_num),
      neg_add_cancel, zpow_zero, mul_one]
  -- one of the bounds comes from the quotient that is looked at, the other from the sizes
  split
  · rename_i small
    rw [Nat.div_lt_iff_lt_mul positive] at small
    constructor
    · rw [shifted, add_comm, zpow_add₀ (by norm_num)]
      apply mul_lt_mul_of_pos_right _ (by positivity)
      rw [div_lt_iff₀ castPositive]
      exact_mod_cast small
    · have exponent : low + 52 = (numerator.log2 : Int) - denominator.log2 - 1 := by omega
      rw [exponent]
      exact above
  · rename_i large
    rw [not_lt, Nat.le_div_iff_mul_le positive] at large
    constructor
    · have exponent : low + 1 + 53 = (numerator.log2 : Int) - denominator.log2 + 1 := by omega
      rw [exponent]
      exact below
    · have exponent : low + 1 + 52 = 53 + low := by omega
      rw [shifted, exponent, zpow_add₀ (by norm_num)]
      apply mul_le_mul_of_nonneg_right _ (by positivity)
      rw [le_div_iff₀ castPositive]
      exact_mod_cast large

/-- The last place is as low as 53 binary digits reach, but not below the range. -/
theorem lastPlace_spec (numeratorPositive : 0 < numerator)
    (denominatorPositive : 0 < denominator) :
    -1074 ≤ lastPlace numerator denominator ∧
      (numerator : Rat) / denominator < 2 ^ (lastPlace numerator denominator + 53) ∧
      (lastPlace numerator denominator = -1074 ∨
        (2 : Rat) ^ (lastPlace numerator denominator + 52) ≤ numerator / denominator) := by
  obtain ⟨high, low⟩ := freePlace_spec numeratorPositive denominatorPositive
  rw [lastPlace_eq]
  generalize freePlace numerator denominator = place at high low
  refine ⟨le_max_right _ _, ?_, ?_⟩
  · calc (numerator : Rat) / denominator < 2 ^ (place + 53) := high
      _ ≤ 2 ^ (max place (-1074) + 53) :=
          zpow_le_zpow_right₀ (by norm_num) (by omega)
  · rcases le_total place (-1074) with least | greater
    · exact .inl (max_eq_right least)
    · right
      rw [max_eq_left greater]
      exact low

end LastPlace

/-- The least fraction that rounds to a number, up to the bound itself. -/
def lower (number : Binary64) : Rat :=
  number.quarters.1 * 2 ^ (number.exponent - 2)

/-- The greatest fraction that rounds to a number, up to the bound itself. -/
def upper (number : Binary64) : Rat :=
  number.quarters.2.2 * 2 ^ (number.exponent - 2)

/-- A fraction rounds to a number.  The bounds go to the number whose significand is even. -/
def ReadsBack (number : Binary64) (value : Rat) : Prop :=
  if number.significand % 2 = 0 then
    number.lower ≤ value ∧ value ≤ number.upper
  else
    number.lower < value ∧ value < number.upper

/-- A number with all of its 53 digits. -/
structure Normal (number : Binary64) : Prop where
  significand_ge : 2 ^ 52 ≤ number.significand
  exponent_ge : -1074 ≤ number.exponent

section Nearest

variable {numerator denominator : Nat} {number : Binary64}

theorem nearest?_eq_some_iff (numeratorPositive : 0 < numerator) :
    nearest? numerator denominator = some number ↔
      ∃ place, lastPlace numerator denominator = place ∧ ∃ rounded,
        Decimal.divideHalfEven (scaled numerator denominator (-place)).1
            (scaled numerator denominator (-place)).2 = rounded ∧
          (if rounded = 2 ^ 53 then ⟨2 ^ 52, place + 1⟩ else ⟨rounded, place⟩) = number ∧
          number.exponent ≤ 971 := by
  rw [nearest?, if_neg numeratorPositive.ne']
  dsimp only
  rw [Option.ite_none_right_eq_some, Option.some_inj]
  constructor
  · rintro ⟨inRange, rfl⟩
    exact ⟨_, rfl, _, rfl, rfl, inRange⟩
  · rintro ⟨_, rfl, _, rfl, rfl, inRange⟩
    exact ⟨inRange, rfl⟩

theorem exists_nearest? (numeratorPositive : 0 < numerator)
    (denominatorPositive : 0 < denominator)
    (small : (numerator : Rat) / denominator < 2 ^ (200 : Int)) :
    ∃ number, nearest? numerator denominator = some number := by
  obtain ⟨_, _, least⟩ := lastPlace_spec numeratorPositive denominatorPositive
  have low : lastPlace numerator denominator < 200 := by
    rcases least with least | above
    · omega
    · have powers := lt_of_le_of_lt above small
      rw [zpow_lt_zpow_iff_right₀ (by norm_num)] at powers
      omega
  refine ⟨_, (nearest?_eq_some_iff numeratorPositive).mpr ⟨_, rfl, _, rfl, rfl, ?_⟩⟩
  split
  · change lastPlace numerator denominator + 1 ≤ 971
    omega
  · change lastPlace numerator denominator ≤ 971
    omega

/-- What a rounded significand comes to, with a carry if it has one digit too many. -/
def carried (rounded : Nat) (place : Int) : Binary64 :=
  if rounded = 2 ^ 53 then ⟨2 ^ 52, place + 1⟩ else ⟨rounded, place⟩

theorem value_carried (rounded : Nat) (place : Int) :
    (carried rounded place).value = rounded * 2 ^ place := by
  unfold carried value
  split
  · rename_i carry
    rw [carry]
    change ((2 ^ 52 : Nat) : Rat) * 2 ^ (place + 1) = _
    rw [zpow_add₀ (by norm_num)]
    push_cast
    ring
  · rfl

/-- The fraction in units of its last place, which is what is rounded. -/
theorem exists_of_nearest?_eq_some (numeratorPositive : 0 < numerator)
    (denominatorPositive : 0 < denominator)
    (found : nearest? numerator denominator = some number) :
    ∃ (place : Int) (fraction : Rat) (rounded : Nat),
      (numerator : Rat) / denominator = fraction * 2 ^ place ∧ -1074 ≤ place ∧
        fraction < 2 ^ 53 ∧ (place = -1074 ∨ 2 ^ 52 ≤ fraction) ∧
        Decimal.IsRounding rounded fraction ∧ carried rounded place = number := by
  obtain ⟨inRange, high, least⟩ := lastPlace_spec numeratorPositive denominatorPositive
  obtain ⟨place, placed, rounded, divided, shape, _⟩ :=
    (nearest?_eq_some_iff numeratorPositive).mp found
  rw [placed] at inRange high least
  have positive := scaled_positive numerator denominatorPositive (-place)
  have rounding := Decimal.isRounding_divideHalfEven
    (scaled numerator denominator (-place)).1 positive
  rw [divided, scaled_ratio] at rounding
  have unit : (0 : Rat) < 2 ^ place := by positivity
  have whole : (numerator : Rat) / denominator =
      numerator / denominator * 2 ^ (-place) * 2 ^ place := by
    rw [mul_assoc, ← zpow_add₀ (by norm_num), neg_add_cancel, zpow_zero, mul_one]
  generalize (numerator : Rat) / denominator * 2 ^ (-place) = fraction at rounding whole
  rw [whole, add_comm, zpow_add₀ (by norm_num), mul_lt_mul_iff_left₀ unit] at high
  refine ⟨place, fraction, rounded, whole, inRange, by exact_mod_cast high, ?_, rounding, shape⟩
  rcases least with least | low
  · exact .inl least
  · right
    rw [whole, add_comm, zpow_add₀ (by norm_num), mul_le_mul_iff_left₀ unit] at low
    exact_mod_cast low

/-- A fraction that the format can hold is not rounded. -/
theorem value_of_nearest?_eq_some (numeratorPositive : 0 < numerator)
    (denominatorPositive : 0 < denominator)
    (found : nearest? numerator denominator = some number)
    {significand : Nat} {exponent : Int} (short : significand < 2 ^ 53)
    (inRange : -1074 ≤ exponent)
    (same : (numerator : Rat) / denominator = significand * 2 ^ exponent) :
    number.value = numerator / denominator := by
  obtain ⟨place, fraction, rounded, whole, _, _, least, rounding, rfl⟩ :=
    exists_of_nearest?_eq_some numeratorPositive denominatorPositive found
  have unit : (0 : Rat) < 2 ^ place := by positivity
  have below : place ≤ exponent := by
    rcases least with least | low
    · omega
    · have powers : (2 : Rat) ^ (52 + place) < 2 ^ (53 + exponent) := by
        rw [zpow_add₀ (by norm_num), zpow_add₀ (by norm_num)]
        calc (2 : Rat) ^ (52 : Int) * 2 ^ place ≤ fraction * 2 ^ place :=
              mul_le_mul_of_nonneg_right (by exact_mod_cast low) unit.le
          _ = significand * 2 ^ exponent := whole.symm.trans same
          _ < 2 ^ (53 : Int) * 2 ^ exponent := by
              apply mul_lt_mul_of_pos_right _ (by positivity)
              exact_mod_cast short
      rw [zpow_lt_zpow_iff_right₀ (by norm_num)] at powers
      omega
  obtain ⟨count, between⟩ := Int.eq_ofNat_of_zero_le (sub_nonneg.mpr below)
  have exactly : fraction = (significand * 2 ^ count : Nat) := by
    apply mul_right_cancel₀ unit.ne'
    rw [← whole, same, show exponent = count + place by omega, zpow_add₀ (by norm_num),
      ← mul_assoc, zpow_natCast]
    push_cast
    rfl
  rw [exactly] at rounding
  rw [value_carried, rounding.eq_of_natCast, ← exactly, whole]

theorem readsBack_mul_iff (number : Binary64) (value : Rat) :
    number.ReadsBack (value * 2 ^ number.exponent) ↔
      if number.significand % 2 = 0 then
        (number.quarters.1 : Rat) ≤ 4 * value ∧ 4 * value ≤ number.quarters.2.2
      else
        (number.quarters.1 : Rat) < 4 * value ∧ 4 * value < number.quarters.2.2 := by
  have unit : value * 2 ^ number.exponent = 4 * value * 2 ^ (number.exponent - 2) := by
    rw [zpow_sub₀ (by norm_num)]
    norm_num
    ring
  have positive : (0 : Rat) < 2 ^ (number.exponent - 2) := by positivity
  rw [ReadsBack, lower, upper, unit, mul_le_mul_iff_left₀ positive,
    mul_le_mul_iff_left₀ positive, mul_lt_mul_iff_left₀ positive,
    mul_lt_mul_iff_left₀ positive]

theorem readsBack_of_carry {place : Int} {fraction : Rat} (inRange : -1074 ≤ place)
    (rounding : Decimal.IsRounding (2 ^ 53) fraction) (short : fraction < 2 ^ 53) :
    ReadsBack ⟨2 ^ 52, place + 1⟩ (fraction * 2 ^ place) := by
  have half : fraction * 2 ^ place = fraction / 2 * 2 ^ (place + 1) := by
    rw [zpow_add₀ (by norm_num)]
    norm_num
    ring
  have even : 2 ^ 52 % 2 = 0 := by norm_num
  have notLeast : place + 1 ≠ -1074 := by omega
  have low := rounding.low
  push_cast at low
  rw [half, readsBack_mul_iff ⟨2 ^ 52, place + 1⟩ (fraction / 2), if_pos even, quarters,
    if_pos ⟨rfl, notLeast⟩]
  dsimp only
  push_cast
  constructor <;> linarith

theorem readsBack_of_isRounding {place : Int} {fraction : Rat} {rounded : Nat}
    (rounding : Decimal.IsRounding rounded fraction) (full : 2 ^ 52 ≤ fraction) :
    ReadsBack ⟨rounded, place⟩ (fraction * 2 ^ place) := by
  have large : 2 ^ 52 ≤ rounded := rounding.floor (2 ^ 52) (by exact_mod_cast full)
  obtain ⟨low, high, odd, _⟩ := rounding
  rw [readsBack_mul_iff ⟨rounded, place⟩ fraction, quarters]
  dsimp only
  by_cases narrow : rounded = 2 ^ 52 ∧ place ≠ -1074
  · have even : 2 ^ 52 % 2 = 0 := by norm_num
    rw [if_pos narrow, narrow.1, if_pos even]
    rw [narrow.1] at high
    push_cast at high ⊢
    constructor <;> linarith
  · have lowest : ((4 * rounded - 2 : Nat) : Rat) = 4 * rounded - 2 := by
      rw [Nat.cast_sub (by omega)]
      push_cast
      rfl
    rw [if_neg narrow, lowest]
    push_cast
    split
    · constructor <;> linarith
    · obtain ⟨lowStrict, highStrict⟩ := odd (by omega)
      constructor <;> linarith

/-- A fraction reads back as the number that it is rounded to. -/
theorem readsBack_of_nearest?_eq_some (numeratorPositive : 0 < numerator)
    (denominatorPositive : 0 < denominator)
    (found : nearest? numerator denominator = some number)
    (large : (2 : Rat) ^ (-1022 : Int) ≤ numerator / denominator) :
    number.Normal ∧ number.ReadsBack (numerator / denominator) := by
  obtain ⟨place, fraction, rounded, whole, inRange, short, least, rounding, rfl⟩ :=
    exists_of_nearest?_eq_some numeratorPositive denominatorPositive found
  have full : 2 ^ 52 ≤ fraction := by
    rcases least with rfl | full
    · have shape : (2 : Rat) ^ (-1022 : Int) = 2 ^ 52 * 2 ^ (-1074 : Int) := by
        rw [← zpow_natCast, ← zpow_add₀ (by norm_num)]
        rfl
      rw [whole, shape] at large
      exact le_of_mul_le_mul_right large (by positivity)
    · exact full
  rw [whole, carried]
  split
  · rename_i carry
    subst carry
    exact ⟨⟨Nat.le_refl _, by change -1074 ≤ place + 1; omega⟩,
      readsBack_of_carry inRange rounding short⟩
  · exact ⟨⟨rounding.floor (2 ^ 52) (by exact_mod_cast full), inRange⟩,
      readsBack_of_isRounding rounding full⟩

end Nearest

theorem positive_of_ratio {numerator denominator : Nat}
    (positive : (0 : Rat) < numerator / denominator) : 0 < numerator ∧ 0 < denominator := by
  constructor
  · apply Nat.pos_of_ne_zero
    rintro rfl
    simp at positive
  · apply Nat.pos_of_ne_zero
    rintro rfl
    simp at positive

theorem mul_ratio (left right : Binary64) :
    ((left.fraction.1 * right.fraction.1 : Nat) : Rat) /
        (left.fraction.2 * right.fraction.2 : Nat) =
      left.value * right.value := by
  rw [← fraction_ratio, ← fraction_ratio, div_mul_div_comm]
  push_cast
  rfl

theorem div_ratio (left right : Binary64) :
    ((left.fraction.1 * right.fraction.2 : Nat) : Rat) /
        (left.fraction.2 * right.fraction.1 : Nat) =
      left.value / right.value := by
  rw [← fraction_ratio, ← fraction_ratio, div_div_div_eq]
  push_cast
  rfl

section Scientific

variable {number : Binary64}

theorem value_of_nearest?_natCast {significand : Nat} (positive : 0 < significand)
    (short : significand < 2 ^ 53) (found : nearest? significand 1 = some number) :
    number.value = significand := by
  have same : (significand : Rat) / (1 : Nat) = significand * 2 ^ (0 : Int) := by
    rw [zpow_zero, Nat.cast_one, div_one, mul_one]
  rw [value_of_nearest?_eq_some positive Nat.one_pos found short (by decide) same,
    Nat.cast_one, div_one]

/-- The powers of ten up to this one are held exactly. -/
theorem exists_powerOfTen? {exponent : Nat} (small : exponent ≤ 22) :
    ∃ power, powerOfTen? exponent = some power ∧ power.value = 10 ^ exponent := by
  have positive : 0 < 10 ^ exponent := Nat.pow_pos (by decide)
  have bounded : 10 ^ exponent ≤ 10 ^ 22 := Nat.pow_le_pow_right (by decide) small
  have below : ((10 ^ exponent : Nat) : Rat) / (1 : Nat) < 2 ^ (200 : Int) := by
    rw [Nat.cast_one, div_one]
    calc ((10 ^ exponent : Nat) : Rat) ≤ (10 ^ 22 : Nat) := by exact_mod_cast bounded
      _ < 2 ^ (200 : Int) := by norm_num
  have fives : 5 ^ exponent < 2 ^ 53 :=
    lt_of_le_of_lt (Nat.pow_le_pow_right (by decide) small) (by norm_num)
  have same : ((10 ^ exponent : Nat) : Rat) / (1 : Nat) =
      (5 ^ exponent : Nat) * 2 ^ (exponent : Int) := by
    rw [Nat.cast_one, div_one, zpow_natCast]
    push_cast
    rw [← mul_pow]
    norm_num
  obtain ⟨power, found⟩ := exists_nearest? positive Nat.one_pos below
  refine ⟨power, found, ?_⟩
  rw [value_of_nearest?_eq_some positive Nat.one_pos found fives (by omega) same, Nat.cast_one,
    div_one]
  push_cast
  rfl

theorem scientific_range {significand : Nat} (positive : 0 < significand)
    (short : significand < 2 ^ 53) {power : Int} (low : -22 ≤ power) (high : power ≤ 22) :
    (2 : Rat) ^ (-1022 : Int) ≤ significand * 10 ^ power ∧
      (significand : Rat) * 10 ^ power < 2 ^ (200 : Int) := by
  have one : (1 : Rat) ≤ significand := by exact_mod_cast positive
  have few : (significand : Rat) ≤ 2 ^ 53 := by exact_mod_cast short.le
  constructor
  · calc (2 : Rat) ^ (-1022 : Int) ≤ 2 ^ (-100 : Int) :=
        zpow_le_zpow_right₀ (by norm_num) (by decide)
      _ ≤ 1 * 10 ^ (-22 : Int) := by norm_num
      _ ≤ significand * 10 ^ power :=
        mul_le_mul one (zpow_le_zpow_right₀ (by norm_num) low) (by positivity) (by positivity)
  · calc (significand : Rat) * 10 ^ power ≤ 2 ^ 53 * 10 ^ (22 : Int) :=
        mul_le_mul few (zpow_le_zpow_right₀ (by norm_num) high) (by positivity) (by positivity)
      _ < 2 ^ (200 : Int) := by norm_num

theorem shrink_of_div? {base ten : Binary64} (present : base.significand ≠ 0) {exponent : Nat}
    (small : exponent ≤ 308) (power : powerOfTen? exponent = some ten)
    (divided : base.div? ten = some number) : shrink (0 + 1) base exponent = number := by
  have quotient : (powerOfTen? exponent >>= fun power => base.div? power) = some number := by
    rw [power]
    exact divided
  rw [shrink, if_neg present, min_eq_left small]
  dsimp only
  rw [quotient, if_pos small]
  rfl

theorem readsBack_of_mul? {left right : Binary64} (found : left.mul? right = some number)
    (large : (2 : Rat) ^ (-1022 : Int) ≤ left.value * right.value) :
    number.Normal ∧ number.ReadsBack (left.value * right.value) := by
  have positive : (0 : Rat) < left.value * right.value := lt_of_lt_of_le (by positivity) large
  rw [← mul_ratio] at large positive ⊢
  obtain ⟨numeratorPositive, denominatorPositive⟩ := positive_of_ratio positive
  exact readsBack_of_nearest?_eq_some numeratorPositive denominatorPositive found large

theorem exists_div?_readsBack {left right : Binary64}
    (large : (2 : Rat) ^ (-1022 : Int) ≤ left.value / right.value)
    (small : left.value / right.value < 2 ^ (200 : Int)) :
    ∃ number, left.div? right = some number ∧
      number.Normal ∧ number.ReadsBack (left.value / right.value) := by
  have positive : (0 : Rat) < left.value / right.value := lt_of_lt_of_le (by positivity) large
  rw [← div_ratio] at large small positive ⊢
  obtain ⟨numeratorPositive, denominatorPositive⟩ := positive_of_ratio positive
  obtain ⟨number, found⟩ := exists_nearest? numeratorPositive denominatorPositive small
  exact ⟨number, found,
    readsBack_of_nearest?_eq_some numeratorPositive denominatorPositive found large⟩

/-- Few digits with a small power of ten are rounded once. -/
theorem readsBack_of_ofScientific?_eq_some {significand : Nat} {power : Int}
    (positive : 0 < significand) (short : significand < 2 ^ 53)
    (low : -22 ≤ power) (high : power ≤ 22)
    (found : ofScientific? significand power = some number) :
    number.Normal ∧ number.ReadsBack (significand * 10 ^ power) := by
  obtain ⟨above, below⟩ := scientific_range positive short low high
  unfold ofScientific? at found
  obtain ⟨base, baseFound, found⟩ := Option.bind_eq_some_iff.mp found
  have baseValue := value_of_nearest?_natCast positive short baseFound
  by_cases upward : 0 ≤ power
  · obtain ⟨exponent, rfl⟩ := Int.eq_ofNat_of_zero_le upward
    rw [if_pos upward, if_pos (by omega), Int.toNat_natCast] at found
    obtain ⟨ten, tenFound, tenValue⟩ := exists_powerOfTen? (show exponent ≤ 22 by omega)
    obtain ⟨other, otherFound, found⟩ := Option.bind_eq_some_iff.mp found
    rw [tenFound] at otherFound
    cases otherFound
    have product : (significand : Rat) * 10 ^ (exponent : Int) = base.value * ten.value := by
      rw [baseValue, tenValue, zpow_natCast]
    rw [product] at above ⊢
    exact readsBack_of_mul? found above
  · obtain ⟨exponent, rfl⟩ : ∃ exponent : Nat, power = -(exponent : Int) :=
      ⟨(-power).toNat, by omega⟩
    rw [if_neg upward, neg_neg, Int.toNat_natCast] at found
    dsimp only at found
    rw [Nat.div_eq_of_lt (by omega)] at found
    cases found
    obtain ⟨ten, tenFound, tenValue⟩ := exists_powerOfTen? (show exponent ≤ 22 by omega)
    have quotient : (significand : Rat) * 10 ^ (-(exponent : Int)) = base.value / ten.value := by
      rw [baseValue, tenValue, zpow_neg, zpow_natCast, div_eq_mul_inv]
    rw [quotient] at above below ⊢
    obtain ⟨number, divided, reads⟩ := exists_div?_readsBack above below
    have present : base.significand ≠ 0 := by
      intro zero
      rw [value, zero, Nat.cast_zero, zero_mul] at baseValue
      exact positive.ne (by exact_mod_cast baseValue)
    rw [shrink_of_div? present (by omega) tenFound divided]
    exact reads

theorem shrink_zero (steps exponent : Nat) : shrink steps zero exponent = zero := by
  cases steps with
  | zero => rfl
  | succ steps => exact if_pos rfl

theorem significand_of_ofScientific?_zero {power : Int}
    (found : ofScientific? 0 power = some number) : number.significand = 0 := by
  have zeroFound : nearest? 0 1 = some zero := rfl
  unfold ofScientific? at found
  obtain ⟨base, baseFound, found⟩ := Option.bind_eq_some_iff.mp found
  rw [zeroFound] at baseFound
  cases baseFound
  split at found
  · split at found
    · obtain ⟨ten, _, found⟩ := Option.bind_eq_some_iff.mp found
      have product : zero.fraction.1 * ten.fraction.1 = 0 := Nat.zero_mul _
      rw [mul?, product] at found
      cases found
      rfl
    · cases found
      rfl
  · dsimp only at found
    rw [shrink_zero] at found
    cases found
    rfl

end Scientific

end Clearing.Binary64
