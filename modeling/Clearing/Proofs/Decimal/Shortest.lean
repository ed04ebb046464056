import Clearing.Proofs.Decimal.Exactness
import Clearing.Proofs.Decimal.Rounding
import Clearing.Proofs.Decimal.Text
import Mathlib.Data.List.TakeWhile
import Mathlib.Data.Nat.Digits.Defs
/-!
The shortest text of a number in binary floating point.  Decimal grids are tried from the
coarsest on, and on each one a fraction that reads back is found if there is any.  Where
fifteen digits suffice, the grid is still wider than the gap between the bounds of the number,
so that no other fraction is found.
-/

namespace Clearing.Binary64

theorem pow_length_toDigits {number : Nat} (positive : 0 < number) :
    10 ^ ((Nat.toDigits 10 number).length - 1) ≤ number ∧
      number < 10 ^ (Nat.toDigits 10 number).length := by
  constructor
  · by_contra short
    rw [not_le] at short
    rcases Nat.eq_zero_or_pos ((Nat.toDigits 10 number).length - 1) with one | more
    · rw [one, pow_zero] at short
      omega
    · have fewer := Nat.toDigits_length 10 number _ more short
      omega
  · have numeric : ∀ digit ∈ Nat.toDigits 10 number, Text.isDigit digit = true :=
      fun _ member => Text.isDigit_of_mem_toDigits member
    have bound := Text.decimalNumber_lt_of_isDigit numeric
    rwa [Text.decimalNumber, Nat.ofDigitChars_ten_toDigits] at bound

theorem leadingZeros_spec {denominator numerator : Nat} (fuel : Nat)
    (below : numerator < denominator) :
    10 ^ leadingZeros denominator fuel numerator * numerator < denominator ∧
      (leadingZeros denominator fuel numerator < fuel →
        denominator ≤ 10 ^ (leadingZeros denominator fuel numerator + 1) * numerator) := by
  induction fuel generalizing numerator with
  | zero =>
      rw [leadingZeros]
      refine ⟨by simpa using below, fun none => absurd none (Nat.lt_irrefl 0)⟩
  | succ fuel inductionHypothesis =>
      rw [leadingZeros]
      split
      · rename_i reached
        exact ⟨by simpa using below, fun _ => by simpa using reached⟩
      · rename_i short
        obtain ⟨less, more⟩ := inductionHypothesis (not_le.mp short)
        generalize leadingZeros denominator fuel (10 * numerator) = zeros at less more
        rw [pow_succ, mul_assoc]
        refine ⟨less, fun enough => ?_⟩
        rw [pow_succ _ (zeros + 1), mul_assoc]
        exact more (by omega)

theorem leadingZeros_lt {denominator numerator fuel : Nat} (below : numerator < denominator)
    (large : denominator ≤ 10 ^ fuel * numerator) :
    leadingZeros denominator fuel numerator < fuel := by
  by_contra spent
  have further : 10 ^ fuel * numerator ≤
      10 ^ leadingZeros denominator fuel numerator * numerator :=
    Nat.mul_le_mul_right _ (Nat.pow_le_pow_right (by decide) (not_lt.mp spent))
  exact absurd ((large.trans further).trans_lt (leadingZeros_spec fuel below).1)
    (Nat.lt_irrefl _)

/-- The first digit of a fraction, if it does not stand too far behind the point. -/
theorem magnitude_spec {numerator denominator : Nat} (numeratorPositive : 0 < numerator)
    (denominatorPositive : 0 < denominator) (large : denominator ≤ 10 ^ 400 * numerator) :
    (10 : Rat) ^ (magnitude numerator denominator - 1) ≤ numerator / denominator ∧
      (numerator : Rat) / denominator < 10 ^ magnitude numerator denominator := by
  have castPositive : (0 : Rat) < denominator := by exact_mod_cast denominatorPositive
  unfold magnitude
  split
  · rename_i whole
    have positive : 0 < numerator / denominator :=
      Nat.div_pos whole denominatorPositive
    obtain ⟨low, high⟩ := pow_length_toDigits positive
    rw [Nat.le_div_iff_mul_le denominatorPositive] at low
    rw [Nat.div_lt_iff_lt_mul denominatorPositive] at high
    have present : (Nat.toDigits 10 (numerator / denominator)).length ≠ 0 :=
      List.length_eq_zero_iff.not.mpr Nat.toDigits_ne_nil
    generalize (Nat.toDigits 10 (numerator / denominator)).length = length at low high present
    obtain ⟨fewer, rfl⟩ := Nat.exists_eq_succ_of_ne_zero present
    rw [le_div_iff₀ castPositive, div_lt_iff₀ castPositive, zpow_natCast]
    have exponent : ((fewer + 1 : Nat) : Int) - 1 = fewer := by omega
    rw [Nat.succ_eq_add_one] at low high ⊢
    rw [exponent, zpow_natCast]
    exact ⟨by exact_mod_cast low, by exact_mod_cast high⟩
  · rename_i fractional
    obtain ⟨less, more⟩ := leadingZeros_spec 400 (not_le.mp fractional)
    have reached := more (leadingZeros_lt (not_le.mp fractional) large)
    generalize leadingZeros denominator 400 numerator = zeros at less reached
    have exponent : -(zeros : Int) - 1 = -((zeros + 1 : Nat) : Int) := by
      push_cast
      ring
    rw [exponent, zpow_neg, zpow_neg, zpow_natCast, zpow_natCast, inv_le_comm₀ (by positivity)
      (by positivity), inv_div, div_le_iff₀ (by positivity), lt_inv_comm₀ (by positivity)
      (by positivity), inv_div, lt_div_iff₀ (by positivity)]
    exact ⟨by exact_mod_cast reached, by exact_mod_cast less⟩

section Interval

variable {number : Binary64}

theorem value_eq_quarters (number : Binary64) :
    number.value = (4 * number.significand : Nat) * 2 ^ (number.exponent - 2) := by
  rw [value, zpow_sub₀ (by norm_num)]
  push_cast
  ring

theorem lower_lt_value_lt_upper (positive : 0 < number.significand) :
    number.lower < number.value ∧ number.value < number.upper ∧
      number.upper - number.lower ≤ 2 ^ number.exponent := by
  have unit : (0 : Rat) < 2 ^ (number.exponent - 2) := by positivity
  have step : (2 : Rat) ^ number.exponent = 4 * 2 ^ (number.exponent - 2) := by
    rw [zpow_sub₀ (by norm_num)]
    norm_num
    ring
  obtain ⟨below, quarters, one, two⟩ : ∃ below,
      number.quarters =
        (4 * number.significand - below, 4 * number.significand, 4 * number.significand + 2) ∧
      1 ≤ below ∧ below ≤ 2 := by
    refine ⟨_, rfl, ?_, ?_⟩ <;> split <;> decide
  have low : ((4 * number.significand - below : Nat) : Rat) = 4 * number.significand - below := by
    rw [Nat.cast_sub (by omega)]
    push_cast
    rfl
  have oneCast : (1 : Rat) ≤ below := by exact_mod_cast one
  have twoCast : (below : Rat) ≤ 2 := by exact_mod_cast two
  rw [lower, upper, value_eq_quarters, quarters, mul_lt_mul_iff_left₀ unit,
    mul_lt_mul_iff_left₀ unit, ← sub_mul, step, mul_le_mul_iff_left₀ unit, low]
  push_cast
  refine ⟨?_, ?_, ?_⟩ <;> linarith

theorem lower_le_of_readsBack {value : Rat} (reads : number.ReadsBack value) :
    number.lower ≤ value ∧ value ≤ number.upper := by
  unfold ReadsBack at reads
  split at reads
  · exact reads
  · exact ⟨reads.1.le, reads.2.le⟩

theorem readsBack_of_between (positive : 0 < number.significand) {far near : Rat}
    (reads : number.ReadsBack far)
    (between : far ≤ near ∧ near ≤ number.value ∨ number.value ≤ near ∧ near ≤ far) :
    number.ReadsBack near := by
  obtain ⟨below, above, _⟩ := lower_lt_value_lt_upper positive
  unfold ReadsBack at reads ⊢
  split
  · rename_i even
    rw [if_pos even] at reads
    rcases between with ⟨first, second⟩ | ⟨first, second⟩
    · exact ⟨reads.1.trans first, second.trans above.le⟩
    · exact ⟨below.le.trans first, second.trans reads.2⟩
  · rename_i odd
    rw [if_neg odd] at reads
    rcases between with ⟨first, second⟩ | ⟨first, second⟩
    · exact ⟨reads.1.trans_le first, second.trans_lt above⟩
    · exact ⟨below.trans_le first, second.trans_lt reads.2⟩

end Interval

section Grid

variable {number : Binary64} {place : Int}

theorem tens_ratio (place : Int) :
    ((10 ^ place.toNat : Nat) : Rat) / (10 ^ (-place).toNat : Nat) = 10 ^ place := by
  obtain ⟨count, rfl | rfl⟩ := place.eq_nat_or_neg
  · rw [Int.toNat_natCast, Int.toNat_neg_natCast, zpow_natCast]
    push_cast
    rw [div_one]
  · rw [Int.toNat_neg_natCast, neg_neg, Int.toNat_natCast, zpow_neg, zpow_natCast]
    push_cast
    rw [one_div]

theorem mul_le_mul_iff_ratio {first second above below high low : Nat}
    (belowPositive : 0 < below) (lowPositive : 0 < low) :
    first * above * low ≤ second * high * below ↔
      (first : Rat) * (above / below) ≤ second * (high / low) := by
  have belowCast : (0 : Rat) < below := by exact_mod_cast belowPositive
  have lowCast : (0 : Rat) < low := by exact_mod_cast lowPositive
  rw [← mul_div_assoc, ← mul_div_assoc, div_le_div_iff₀ belowCast lowCast]
  exact_mod_cast Iff.rfl

theorem mul_lt_mul_iff_ratio {first second above below high low : Nat}
    (belowPositive : 0 < below) (lowPositive : 0 < low) :
    first * above * low < second * high * below ↔
      (first : Rat) * (above / below) < second * (high / low) := by
  rw [← not_le, mul_le_mul_iff_ratio lowPositive belowPositive, not_le]

/-- Whether a point of a decimal grid reads back, by comparing whole numbers. -/
def readsOnGrid (number : Binary64) (place : Int) (digits : Nat) : Bool :=
  let unit := scaled 1 1 (number.exponent - 2)
  let position := digits * 10 ^ place.toNat * unit.2
  let lower := number.quarters.1 * unit.1 * 10 ^ (-place).toNat
  let upper := number.quarters.2.2 * unit.1 * 10 ^ (-place).toNat
  if number.significand % 2 = 0 then
    decide (lower ≤ position) && decide (position ≤ upper)
  else
    decide (lower < position) && decide (position < upper)

/-- The last point of a decimal grid that is not above a number. -/
def belowOnGrid (number : Binary64) (place : Int) : Nat :=
  let unit := scaled 1 1 (number.exponent - 2)
  number.quarters.2.1 * unit.1 * 10 ^ (-place).toNat / (10 ^ place.toNat * unit.2)

theorem unit_ratio (number : Binary64) :
    ((scaled 1 1 (number.exponent - 2)).1 : Rat) / (scaled 1 1 (number.exponent - 2)).2 =
      2 ^ (number.exponent - 2) := by
  rw [scaled_ratio, Nat.cast_one, div_one, one_mul]

theorem readsOnGrid_iff (number : Binary64) (place : Int) (digits : Nat) :
    number.readsOnGrid place digits = true ↔ number.ReadsBack (digits * 10 ^ place) := by
  have unit : 0 < (scaled 1 1 (number.exponent - 2)).2 := scaled_positive 1 Nat.one_pos _
  have grid : 0 < 10 ^ (-place).toNat := Nat.pow_pos (by decide)
  unfold readsOnGrid ReadsBack
  dsimp only
  split
  · rw [Bool.and_eq_true, decide_eq_true_eq, decide_eq_true_eq, mul_le_mul_iff_ratio unit grid,
      mul_le_mul_iff_ratio grid unit, unit_ratio, tens_ratio]
    rfl
  · rw [Bool.and_eq_true, decide_eq_true_eq, decide_eq_true_eq, mul_lt_mul_iff_ratio unit grid,
      mul_lt_mul_iff_ratio grid unit, unit_ratio, tens_ratio]
    rfl

theorem belowOnGrid_spec (number : Binary64) (place : Int) :
    (number.belowOnGrid place : Rat) * 10 ^ place ≤ number.value ∧
      number.value < (number.belowOnGrid place + 1 : Nat) * 10 ^ place := by
  have unit : 0 < (scaled 1 1 (number.exponent - 2)).2 := scaled_positive 1 Nat.one_pos _
  have grid : 0 < 10 ^ (-place).toNat := Nat.pow_pos (by decide)
  have step : 0 < 10 ^ place.toNat * (scaled 1 1 (number.exponent - 2)).2 :=
    Nat.mul_pos (Nat.pow_pos (by decide)) unit
  have middle : number.value = number.quarters.2.1 * 2 ^ (number.exponent - 2) :=
    value_eq_quarters number
  rw [middle, ← unit_ratio, ← tens_ratio, ← mul_le_mul_iff_ratio grid unit,
    ← mul_lt_mul_iff_ratio unit grid, mul_assoc, mul_assoc (_ + 1)]
  exact ⟨Nat.div_mul_le_self _ _, Nat.lt_mul_of_div_lt (Nat.lt_succ_self _) step⟩

/-- Of two neighbours on a grid, the one that reads back, and a given one of them if both do. -/
def chosen (below nearer : Nat) (low high : Bool) : Option Nat :=
  match low, high with
  | true, true => some nearer
  | true, false => some below
  | false, true => some (below + 1)
  | false, false => none

theorem onGrid?_cases (number : Binary64) (place : Int) :
    (number.onGrid? place = none ∧
        number.readsOnGrid place (number.belowOnGrid place) = false ∧
        number.readsOnGrid place (number.belowOnGrid place + 1) = false) ∨
      ∃ digits, number.onGrid? place = some digits ∧
        number.readsOnGrid place digits = true := by
  obtain ⟨nearer, neighbour, shape⟩ : ∃ nearer,
      (nearer = number.belowOnGrid place ∨ nearer = number.belowOnGrid place + 1) ∧
        number.onGrid? place =
          chosen (number.belowOnGrid place) nearer
            (number.readsOnGrid place (number.belowOnGrid place))
            (number.readsOnGrid place (number.belowOnGrid place + 1)) :=
    ⟨_, ite_eq_or_eq _ _ _, rfl⟩
  rw [shape]
  cases low : number.readsOnGrid place (number.belowOnGrid place) <;>
    cases high : number.readsOnGrid place (number.belowOnGrid place + 1)
  · exact .inl ⟨rfl, rfl, rfl⟩
  · exact .inr ⟨_, rfl, high⟩
  · exact .inr ⟨_, rfl, low⟩
  · refine .inr ⟨nearer, rfl, ?_⟩
    rcases neighbour with rfl | rfl
    · exact low
    · exact high

theorem readsBack_of_onGrid?_eq_some {digits : Nat}
    (found : number.onGrid? place = some digits) :
    number.ReadsBack (digits * 10 ^ place) := by
  rcases onGrid?_cases number place with ⟨none, _⟩ | ⟨other, otherFound, reads⟩
  · rw [none] at found
    cases found
  · rw [otherFound] at found
    cases found
    exact (readsOnGrid_iff number place digits).mp reads

theorem exists_onGrid?_eq_some (positive : 0 < number.significand) {digits : Nat}
    (reads : number.ReadsBack (digits * 10 ^ place)) :
    ∃ found, number.onGrid? place = some found := by
  rcases onGrid?_cases number place with ⟨_, low, high⟩ | ⟨found, foundEq, _⟩
  · exfalso
    obtain ⟨below, above⟩ := belowOnGrid_spec number place
    have unit : (0 : Rat) < 10 ^ place := by positivity
    rw [← Bool.not_eq_true, readsOnGrid_iff] at low high
    rcases Nat.lt_or_ge (number.belowOnGrid place) digits with behind | before
    · apply high
      apply readsBack_of_between positive reads
      refine .inr ⟨above.le, mul_le_mul_of_nonneg_right ?_ unit.le⟩
      exact_mod_cast behind
    · apply low
      apply readsBack_of_between positive reads
      refine .inl ⟨mul_le_mul_of_nonneg_right ?_ unit.le, below⟩
      exact_mod_cast before
  · exact ⟨found, foundEq⟩

end Grid

section Shortest

variable {number : Binary64} {digits : Nat} {power : Int}

theorem Normal.positive (normal : number.Normal) : 0 < number.significand :=
  Nat.lt_of_lt_of_le (Nat.two_pow_pos 52) normal.significand_ge

theorem Normal.unit_le_value (normal : number.Normal) :
    2 ^ 52 * (2 : Rat) ^ number.exponent ≤ number.value := by
  rw [value]
  apply mul_le_mul_of_nonneg_right _ (by positivity)
  exact_mod_cast normal.significand_ge

theorem two_pow_le_ten_pow (count : Nat) : (2 : Rat) ^ (3 * count) ≤ 10 ^ count := by
  rw [pow_mul]
  exact pow_le_pow_left₀ (by norm_num) (by norm_num) count

/-- A number with all of its digits is large enough for its first digit to be found. -/
theorem Normal.denominator_le (normal : number.Normal) :
    number.fraction.2 ≤ 10 ^ 400 * number.fraction.1 := by
  have positive : (0 : Rat) < number.fraction.2 := by exact_mod_cast fraction_positive number
  have tens : (2 : Rat) ^ (1022 : Int) ≤ 10 ^ 400 := by
    calc (2 : Rat) ^ (1022 : Int) ≤ 2 ^ ((3 * 400 : Nat) : Int) :=
          zpow_le_zpow_right₀ (by norm_num) (by decide)
      _ ≤ 10 ^ 400 := by
          rw [zpow_natCast]
          exact two_pow_le_ten_pow 400
  have least : (2 : Rat) ^ (-1022 : Int) ≤ number.value := by
    calc (2 : Rat) ^ (-1022 : Int) = 2 ^ 52 * 2 ^ (-1074 : Int) := by
          rw [← zpow_natCast, ← zpow_add₀ (by norm_num)]
          rfl
      _ ≤ 2 ^ 52 * 2 ^ number.exponent :=
          mul_le_mul_of_nonneg_left (zpow_le_zpow_right₀ (by norm_num) normal.exponent_ge)
            (by positivity)
      _ ≤ number.value := normal.unit_le_value
  have one : (1 : Rat) ≤ 10 ^ 400 * (number.fraction.1 / number.fraction.2) := by
    rw [fraction_ratio]
    calc (1 : Rat) = 2 ^ (1022 : Int) * 2 ^ (-1022 : Int) := by
          rw [← zpow_add₀ (by norm_num)]
          rfl
      _ ≤ 10 ^ 400 * number.value :=
          mul_le_mul tens least (by positivity) (by positivity)
  rw [← mul_div_assoc, le_div_iff₀ positive, one_mul] at one
  exact_mod_cast one

/-- The place of the last of fifteen digits of a number. -/
def fifteenthPlace (number : Binary64) : Int :=
  magnitude number.fraction.1 number.fraction.2 - 15

theorem value_between_tens (normal : number.Normal) :
    (10 : Rat) ^ (magnitude number.fraction.1 number.fraction.2 - 1) ≤ number.value ∧
      number.value < 10 ^ magnitude number.fraction.1 number.fraction.2 := by
  have positive : (0 : Rat) < number.fraction.1 / number.fraction.2 := by
    rw [fraction_ratio]
    have unit : (0 : Rat) < 2 ^ 52 * 2 ^ number.exponent := by positivity
    exact unit.trans_le normal.unit_le_value
  obtain ⟨numeratorPositive, denominatorPositive⟩ := positive_of_ratio positive
  have spec := magnitude_spec numeratorPositive denominatorPositive normal.denominator_le
  rwa [fraction_ratio] at spec

/-- Fifteen digits are fewer than any number distinguishes. -/
theorem unit_lt_fifteenthPlace (normal : number.Normal) :
    (2 : Rat) ^ number.exponent < 10 ^ number.fifteenthPlace := by
  have below := (value_between_tens normal).2
  have above := normal.unit_le_value
  have split : (10 : Rat) ^ magnitude number.fraction.1 number.fraction.2 =
      10 ^ number.fifteenthPlace * 10 ^ 15 := by
    rw [fifteenthPlace, ← zpow_natCast, ← zpow_add₀ (by norm_num)]
    congr 1
    push_cast
    ring
  have positive : (0 : Rat) < 10 ^ number.fifteenthPlace := by positivity
  rw [split] at below
  linarith

/-- What has fifteen digits and reads back is on the grid of the fifteenth digit. -/
theorem fifteenthPlace_le (normal : number.Normal) (short : digits < 10 ^ 15)
    (reads : number.ReadsBack (digits * 10 ^ power)) : number.fifteenthPlace ≤ power := by
  obtain ⟨_, high, width⟩ := lower_lt_value_lt_upper normal.positive
  have low := (lower_le_of_readsBack reads).1
  have unit := normal.unit_le_value
  have first := (value_between_tens normal).1
  have positive : (0 : Rat) < 10 ^ power := by positivity
  have few : (digits : Rat) ≤ 10 ^ 15 - 1 := by
    have fewer : digits + 1 ≤ 10 ^ 15 := short
    have cast : (digits : Rat) + 1 ≤ 10 ^ 15 := by exact_mod_cast fewer
    linarith
  have size : (digits : Rat) * 10 ^ power ≤ (10 ^ 15 - 1) * 10 ^ power :=
    mul_le_mul_of_nonneg_right few positive.le
  have bounded : number.value < 10 ^ 15 * 10 ^ power := by linarith
  have powers := first.trans_lt bounded
  rw [← zpow_natCast, ← zpow_add₀ (by norm_num), zpow_lt_zpow_iff_right₀ (by norm_num)]
    at powers
  rw [fifteenthPlace]
  push_cast at powers
  omega

theorem exists_mul_zpow (digits : Nat) {place : Int} (order : place ≤ power) :
    ∃ count : Nat, (digits : Rat) * 10 ^ power = count * 10 ^ place := by
  obtain ⟨more, rfl⟩ : ∃ more : Nat, power = place + more := ⟨(power - place).toNat, by omega⟩
  refine ⟨digits * 10 ^ more, ?_⟩
  rw [zpow_add₀ (by norm_num), zpow_natCast]
  push_cast
  ring

/-- No two fractions on the grid of the fifteenth digit read back as one number. -/
theorem eq_of_readsBack (normal : number.Normal) {first second : Nat}
    (firstReads : number.ReadsBack (first * 10 ^ number.fifteenthPlace))
    (secondReads : number.ReadsBack (second * 10 ^ number.fifteenthPlace)) :
    first = second := by
  obtain ⟨_, _, width⟩ := lower_lt_value_lt_upper normal.positive
  obtain ⟨firstLow, firstHigh⟩ := lower_le_of_readsBack firstReads
  obtain ⟨secondLow, secondHigh⟩ := lower_le_of_readsBack secondReads
  have narrow := unit_lt_fifteenthPlace normal
  have positive : (0 : Rat) < 10 ^ number.fifteenthPlace := by positivity
  have apart {less more : Nat} (order : less < more)
      (low : number.lower ≤ less * 10 ^ number.fifteenthPlace)
      (high : (more : Rat) * 10 ^ number.fifteenthPlace ≤ number.upper) : False := by
    have next : (less : Rat) + 1 ≤ more := by exact_mod_cast order
    have step := mul_le_mul_of_nonneg_right next positive.le
    linarith
  rcases Nat.lt_trichotomy first second with less | same | more
  · exact (apart less firstLow secondHigh).elim
  · exact same
  · exact (apart more secondLow firstHigh).elim

theorem exists_of_findSome?_range {Found : Type} (find : Nat → Option Found) {count last : Nat}
    (inside : last < count) {atLast : Found} (foundAtLast : find last = some atLast) :
    ∃ index ≤ last, ∃ found, find index = some found ∧
      (List.range count).findSome? find = some found := by
  have present : ((List.range count).findSome? find).isSome := by
    rw [List.findSome?_isSome_iff]
    exact ⟨last, List.mem_range.mpr inside, Option.isSome_of_eq_some foundAtLast⟩
  obtain ⟨found, search⟩ := Option.isSome_iff_exists.mp present
  obtain ⟨before, index, behind, shape, foundAtIndex, none⟩ :=
    List.findSome?_eq_some_iff.mp search
  refine ⟨index, ?_, found, foundAtIndex, search⟩
  have member : last ∈ before ++ index :: behind := by
    rw [← shape]
    exact List.mem_range.mpr inside
  have ordered : (before ++ index :: behind).Pairwise (· < ·) := by
    rw [← shape]
    exact List.pairwise_lt_range
  rcases List.mem_append.mp member with earlier | later
  · rw [none last earlier] at foundAtLast
    cases foundAtLast
  · rcases List.mem_cons.mp later with rfl | later
    · exact Nat.le_refl _
    · have after := (List.pairwise_cons.mp (List.pairwise_append.mp ordered).2.1).1
      exact (after last later).le

/-- Up to fifteen digits are written again as they were read. -/
theorem shortest_spec (normal : number.Normal) (short : digits < 10 ^ 15)
    (reads : number.ReadsBack (digits * 10 ^ power)) :
    (number.shortest.1 : Rat) * 10 ^ number.shortest.2 = digits * 10 ^ power := by
  obtain ⟨count, onGrid⟩ := exists_mul_zpow digits (fifteenthPlace_le normal short reads)
  rw [onGrid] at reads ⊢
  obtain ⟨kept, keptFound⟩ := exists_onGrid?_eq_some normal.positive reads
  unfold shortest
  dsimp only
  set position := magnitude number.fraction.1 number.fraction.2 with positionEq
  have fifteenth : number.fifteenthPlace = position - (14 + 1 : Nat) := rfl
  rw [fifteenth] at keptFound
  obtain ⟨more, fewer, result, resultFound, search⟩ := exists_of_findSome?_range
    (fun (more : Nat) =>
      (number.onGrid? (position - (more + 1 : Nat))).map fun digits =>
        if digits = 10 ^ (more + 1) then (1, position) else (digits, position - (more + 1 : Nat)))
    (show 14 < 17 by decide) (by
      rw [keptFound]
      rfl)
  rw [search, Option.getD_some]
  obtain ⟨found, foundEq, shape⟩ := Option.map_eq_some_iff.mp resultFound
  have foundReads := readsBack_of_onGrid?_eq_some foundEq
  have coarser : number.fifteenthPlace ≤ position - (more + 1 : Nat) := by omega
  obtain ⟨other, otherGrid⟩ := exists_mul_zpow found coarser
  have same : other = count := by
    rw [otherGrid] at foundReads
    exact eq_of_readsBack normal foundReads reads
  rw [← same, ← otherGrid, ← shape]
  split
  · rename_i carried
    rw [carried, Nat.cast_one, one_mul, Nat.cast_pow, ← zpow_natCast, Nat.cast_ofNat,
      ← zpow_add₀ (by norm_num)]
    congr 1
    omega
  · rfl

end Shortest

end Clearing.Binary64

namespace Clearing.Numeral

open Text

theorem negative_of_isDigit {digit : Char} (isOne : isDigit digit = true) (rest : List Char) :
    (ofPlain (digit :: rest)).negative = false := by
  have different := ne_of_isDigit isOne '-' (by decide)
  simp [ofPlain, different]

theorem size_ofPlain_digits {digits : List Char}
    (numeric : ∀ digit ∈ digits, isDigit digit = true) :
    (ofPlain digits).size = decimalNumber digits := by
  have pointless : ∀ digit ∈ digits, decide (digit ≠ '.') = true := by
    intro digit member
    exact decide_eq_true (ne_of_isDigit (numeric digit member) '.' (by decide))
  have decimals : (ofPlain digits).decimals = 0 := by
    rw [ofPlain, List.dropWhile_eq_nil_iff.mpr pointless]
    rfl
  rw [size_ofPlain, decimals, pow_zero, div_one, units, ofPlain,
    List.filter_eq_self.mpr numeric]

theorem size_ofPlain_pointed {scale : Nat} (fractional : scale ≠ 0) (size : Nat) :
    (ofPlain (Decimal.pointed size scale)).size = size / 10 ^ scale := by
  obtain ⟨digit, before, behind, shape, parts, length⟩ :=
    Decimal.exists_pointed_parts fractional size
  have numeric : ∀ digit ∈ paddedDigits (scale + 1) size, isDigit digit = true :=
    fun _ member => isDigit_of_mem_paddedDigits member
  have whole := decimalNumber_paddedDigits (scale + 1) size
  rw [parts] at numeric whole
  have numericBefore : ∀ other ∈ digit :: before, isDigit other = true :=
    fun other member => numeric other (List.mem_append_left _ member)
  have numericBehind : ∀ other ∈ behind, isDigit other = true :=
    fun other member => numeric other (List.mem_append_right _ member)
  have pointless : ∀ other ∈ digit :: before, decide (other ≠ '.') = true := by
    intro other member
    exact decide_eq_true (ne_of_isDigit (numericBefore other member) '.' (by decide))
  have digits : (ofPlain (Decimal.pointed size scale)).digits = digit :: before ++ behind := by
    change (Decimal.pointed size scale).filter isDigit = _
    rw [shape, List.filter_append, List.filter_eq_self.mpr numericBefore,
      List.filter_cons_of_neg (by decide), List.filter_eq_self.mpr numericBehind]
  have decimals : (ofPlain (Decimal.pointed size scale)).decimals = scale := by
    rw [ofPlain, shape, List.dropWhile_append_of_pos pointless,
      List.dropWhile_cons_of_neg (by decide), List.filter_cons_of_neg (by decide),
      List.filter_eq_self.mpr numericBehind, length]
  rw [size_ofPlain, decimals, units, digits, whole]

end Clearing.Numeral

namespace Clearing.Binary64

open Text

/-- The text of a number has no sign and denotes its shortest digits. -/
theorem ofPlain_toCharacters (number : Binary64) :
    (Numeral.ofPlain number.toCharacters).negative = false ∧
      (Numeral.ofPlain number.toCharacters).size =
        if number.significand = 0 then 0
        else (number.shortest.1 : Rat) * 10 ^ number.shortest.2 := by
  unfold toCharacters
  split
  · have numeric : ∀ digit ∈ ['0'], isDigit digit = true :=
      List.forall_mem_singleton.mpr rfl
    refine ⟨rfl, ?_⟩
    rw [Numeral.size_ofPlain_digits numeric]
    rfl
  · dsimp only
    split
    · rename_i upward
      obtain ⟨zeros, placeEq⟩ := Int.eq_ofNat_of_zero_le upward
      have numeric : ∀ digit ∈ Nat.toDigits 10 number.shortest.1 ++
          List.replicate number.shortest.2.toNat '0', isDigit digit = true := by
        intro digit member
        rcases List.mem_append.mp member with written | zero
        · exact isDigit_of_mem_toDigits written
        · rw [List.eq_of_mem_replicate zero]
          rfl
      constructor
      · obtain ⟨digit, rest, shape⟩ := List.exists_cons_of_ne_nil
          (Nat.toDigits_ne_nil (n := number.shortest.1) (b := 10))
        rw [shape] at numeric ⊢
        exact Numeral.negative_of_isDigit (numeric digit (by simp)) _
      · rw [Numeral.size_ofPlain_digits numeric, decimalNumber, Nat.ofDigitChars_append,
          Nat.ofDigitChars_replicate_zero, Nat.ofDigitChars_ten_toDigits, placeEq,
          Int.toNat_natCast, zpow_natCast]
        push_cast
        ring
    · rename_i downward
      obtain ⟨count, placeEq⟩ : ∃ count : Nat, number.shortest.2 = -(count : Int) :=
        ⟨(-number.shortest.2).toNat, by omega⟩
      rw [placeEq, neg_neg, Int.toNat_natCast]
      constructor
      · obtain ⟨digit, rest, shape, isOne⟩ :=
          Decimal.exists_pointed_eq_cons number.shortest.1 count
        rw [shape]
        exact Numeral.negative_of_isDigit isOne rest
      · rw [Numeral.size_ofPlain_pointed (by omega), zpow_neg, zpow_natCast, div_eq_mul_inv]

end Clearing.Binary64
