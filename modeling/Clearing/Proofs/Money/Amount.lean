import Clearing.Proofs.Decimal.Sum
/-!
When a number is an amount of money, and what is then known of its value.
-/

namespace Clearing

def balanceDecimals : Nat := 2

theorem Currency.minorUnits_eq (currency : Currency) :
    currency.minorUnits = balanceDecimals := by
  cases currency <;> rfl

theorem Currency.parse?_code (currency : Currency) :
    parse? currency.code = some currency := by
  cases currency <;> decide

theorem Currency.ofCode?_eq_some_iff (code : String) (currency : Currency) :
    ofCode? code = some currency ↔ code = currency.code := by
  constructor
  · intro found
    have same := List.find?_some found
    rw [beq_iff_eq] at same
    exact same.symm
  · rintro rfl
    exact ofCode?_code currency

theorem Currency.parse_eq_ok_iff (text : String) (currency : Currency) :
    parse text = .ok currency ↔ Text.upperText (Text.trim text) = currency.code := by
  rw [← ofCode?_eq_some_iff, ← parse?]
  unfold parse
  cases parse? text <;> simp

theorem Currency.parse_eq_error_iff (text : String) (error : MoneyError) :
    parse text = .error error ↔
      (∀ currency : Currency, Text.upperText (Text.trim text) ≠ currency.code) ∧
        .unsupportedCurrency text = error := by
  have none_iff : parse? text = none ↔
      ∀ currency : Currency, Text.upperText (Text.trim text) ≠ currency.code := by
    rw [Option.eq_none_iff_forall_ne_some, parse?]
    exact forall_congr' fun currency => not_congr (ofCode?_eq_some_iff _ currency)
  rw [← none_iff]
  unfold parse
  cases parse? text <;> simp

theorem Amount.ofDecimal_eq_ok_iff (value : Decimal) {currency : Currency}
    (amount : Amount currency) :
    ofDecimal value currency = .ok amount ↔ amount.value = value := by
  obtain ⟨_, positive, decimals, bounded⟩ := amount
  constructor
  · intro made
    unfold ofDecimal at made
    repeat' split at made
    all_goals cases made
    rfl
  · rintro rfl
    rw [ofDecimal, dif_pos positive, dif_pos decimals, dif_pos bounded]

theorem Amount.ofDecimal_eq_error_iff (value : Decimal) (currency : Currency)
    (error : MoneyError) :
    ofDecimal value currency = .error error ↔
      ¬ 0 < value.value ∧ .notPositive = error ∨
        0 < value.value ∧
          (¬ value.WholeAt currency.minorUnits ∧
              .tooPrecise value.significantScale currency = error ∨
            value.WholeAt currency.minorUnits ∧ ¬ value.value ≤ maximumAmount.value ∧
              .tooLarge = error) := by
  rw [← Decimal.significantScale_le_iff, ← Decimal.le_iff_value_le, ← Decimal.value_zero,
    ← Decimal.lt_iff_value_lt]
  unfold ofDecimal
  repeat' split
  all_goals simp [*]

theorem Amount.exists_ofDecimal_eq_ok_iff (value : Decimal) (currency : Currency) :
    (∃ amount, Amount.ofDecimal value currency = .ok amount) ↔
      Decimal.zero < value ∧ value.significantScale ≤ balanceDecimals ∧
        value ≤ maximumAmount := by
  rw [← currency.minorUnits_eq]
  by_cases positive : Decimal.zero < value
  · by_cases decimals : value.significantScale ≤ currency.minorUnits
    · by_cases bounded : value ≤ maximumAmount <;>
        simp [Amount.ofDecimal, positive, decimals, bounded]
    · simp [Amount.ofDecimal, positive, decimals]
  · simp [Amount.ofDecimal, positive]

theorem Amount.exists_ofDecimal_eq_ok_iff_value (value : Decimal) (currency : Currency) :
    (∃ amount, ofDecimal value currency = .ok amount) ↔
      0 < value.value ∧ value.value ≤ maximumAmount.value ∧
        value.WholeAt currency.minorUnits := by
  rw [exists_ofDecimal_eq_ok_iff, Decimal.lt_iff_value_lt, Decimal.value_zero,
    Decimal.le_iff_value_le, currency.minorUnits_eq, Decimal.significantScale_le_iff]
  exact and_congr_right fun _ => and_comm

/--
Only the value of a number decides whether it is an amount and what is wrong
with it.  The amount keeps the number as it was written, and too fine a number
is reported with the least number of decimals that writes its value.
-/
theorem Amount.ofDecimal_decided_by_value (number : Decimal) (currency : Currency) :
    ((∃ amount, ofDecimal number currency = .ok amount) ↔
      0 < number.value ∧ number.value ≤ maximumAmount.value ∧
        ∃ units : Int, number.value * 10 ^ currency.minorUnits = units) ∧
    (∀ amount, ofDecimal number currency = .ok amount → amount.value = number) ∧
    (∀ other : Decimal, other.value = number.value →
      ((∃ amount, ofDecimal other currency = .ok amount) ↔
        ∃ amount, ofDecimal number currency = .ok amount) ∧
      ∀ error, ofDecimal other currency = .error error ↔
        ofDecimal number currency = .error error) ∧
    (∀ decimals named,
      ofDecimal number currency = .error (.tooPrecise decimals named) →
        named = currency ∧
          IsLeast {enough | ∃ units : Int, number.value * 10 ^ enough = units} decimals) := by
  refine ⟨exists_ofDecimal_eq_ok_iff_value number currency,
    fun amount => (ofDecimal_eq_ok_iff number amount).mp, ?sameVerdict, ?leastDecimals⟩
  case sameVerdict =>
    intro other sameValue
    have sameWhole := Decimal.wholeAt_iff_of_value_eq sameValue currency.minorUnits
    constructor
    · rw [exists_ofDecimal_eq_ok_iff_value, exists_ofDecimal_eq_ok_iff_value, sameValue,
        sameWhole]
    · intro error
      rw [ofDecimal_eq_error_iff, ofDecimal_eq_error_iff, sameValue, sameWhole,
        Decimal.significantScale_eq_of_value_eq sameValue]
  case leastDecimals =>
    intro decimals named refused
    rw [ofDecimal_eq_error_iff] at refused
    obtain ⟨_, unequal⟩ | ⟨_, ⟨_, reported⟩ | ⟨_, _, unequal⟩⟩ := refused
    · cases unequal
    · cases reported
      exact ⟨rfl, number.significantScale_isLeast⟩
    · cases unequal

/-- A positive whole number of minor units, not above the maximum. -/
structure IsMoney (value : Rat) : Prop where
  positive : 0 < value
  whole : ∃ units : Int, value * 10 ^ balanceDecimals = units
  bounded : value ≤ maximumAmount.value

theorem isMoney_iff_bounds (number : Decimal) :
    IsMoney number.value ↔ Decimal.zero < number ∧
      number.significantScale ≤ balanceDecimals ∧ number ≤ maximumAmount := by
  rw [Decimal.lt_iff_value_lt, Decimal.value_zero, Decimal.le_iff_value_le,
    Decimal.significantScale_le_iff]
  exact ⟨fun money => ⟨money.positive, money.whole, money.bounded⟩,
    fun ⟨positive, whole, bounded⟩ => ⟨positive, whole, bounded⟩⟩

theorem isMoney_of_bounds {number : Decimal} (positive : Decimal.zero < number)
    (decimals : number.significantScale ≤ balanceDecimals) (bounded : number ≤ maximumAmount) :
    IsMoney number.value :=
  (isMoney_iff_bounds number).mpr ⟨positive, decimals, bounded⟩

theorem Amount.isMoney {currency : Currency} (amount : Amount currency) :
    IsMoney amount.value.value := by
  have decimals := amount.decimals_le
  rw [currency.minorUnits_eq] at decimals
  exact isMoney_of_bounds amount.positive decimals amount.value_le

theorem abs_add_lt_bound
    {left right : Rat}
    (leftBounded : |left| ≤ maximumAmount.value)
    (rightBounded : |right| ≤ maximumAmount.value) :
    |left + right| * 10 ^ balanceDecimals < 2 ^ 96 := by
  have sum : |left + right| ≤ 2 * 10 ^ 18 := by
    rw [Decimal.value_maximumAmount] at leftBounded rightBounded
    have triangle := abs_add_le left right
    linarith
  calc |left + right| * 10 ^ balanceDecimals
      ≤ 2 * 10 ^ 18 * 10 ^ balanceDecimals :=
        mul_le_mul_of_nonneg_right sum (by positivity)
    _ < 2 ^ 96 := by norm_num [balanceDecimals]

end Clearing
