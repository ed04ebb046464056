import Clearing.Proofs.Decimal.Keeping
import Clearing.Proofs.Money.Amount
import Mathlib.Data.List.TakeWhile
/-!
Amounts as a person types them.  A text is accepted if it holds digits only, but for a point
between some of them, and if what is kept of its number is a sum of money.  That is the number
itself unless no decimal number has its value.
-/

namespace Clearing

open Text Decimal

namespace Amount

variable {characters : List Char}

theorem ne_point_of_isDigit {digits : List Char}
    (numeric : ∀ digit ∈ digits, isDigit digit = true) :
    ∀ digit ∈ digits, decide (digit ≠ '.') = true := by
  intro digit member
  exact decide_eq_true (ne_of_isDigit (numeric digit member) '.' (by decide))

theorem splitAtPoint_of_isDigit {digits : List Char}
    (numeric : ∀ digit ∈ digits, isDigit digit = true) :
    splitAtPoint digits = (digits, none) := by
  have pointless := ne_point_of_isDigit numeric
  rw [splitAtPoint, List.takeWhile_eq_self_iff.mpr pointless,
    List.dropWhile_eq_nil_iff.mpr pointless]
  rfl

theorem splitAtPoint_append {whole : List Char}
    (numeric : ∀ digit ∈ whole, isDigit digit = true) (fraction : List Char) :
    splitAtPoint (whole ++ '.' :: fraction) = (whole, some fraction) := by
  have pointless := ne_point_of_isDigit numeric
  rw [splitAtPoint, List.takeWhile_append_of_pos pointless,
    List.dropWhile_append_of_pos pointless]
  simp

theorem eq_of_splitAtPoint (characters : List Char) :
    characters = match splitAtPoint characters with
      | (whole, none) => whole
      | (whole, some fraction) => whole ++ '.' :: fraction := by
  have split := List.takeWhile_append_dropWhile (p := fun character => decide (character ≠ '.'))
    (l := characters)
  have first := List.head?_dropWhile_not (fun character => decide (character ≠ '.')) characters
  unfold splitAtPoint
  cases behind : characters.dropWhile (fun character => decide (character ≠ '.')) with
  | nil =>
      rw [behind, List.append_nil] at split
      exact split.symm
  | cons point fraction =>
      rw [behind] at first split
      have same : point = '.' := by simpa using first
      rw [same] at split
      exact split.symm

/-- A text is accepted if it has the form of an amount and its number is accepted. -/
theorem parse_eq_ok_iff (text : String) {currency : Currency} (amount : Amount currency) :
    parse text currency = .ok amount ↔
      IsPlain (trimmed text.toList) ∧ ofPlain (trimmed text.toList) currency = .ok amount := by
  unfold parse
  generalize trimmed text.toList = characters
  dsimp only
  constructor
  · intro accepted
    have shape := eq_of_splitAtPoint characters
    simp only [ite_error_eq_ok_iff] at accepted
    obtain ⟨present, _, accepted⟩ := accepted
    split at accepted
    · rename_i whole parts
      rw [parts] at shape
      cases shape
      split at accepted
      · rename_i numeric
        exact ⟨.whole _ present (List.all_eq_true.mp numeric), accepted⟩
      · cases accepted
    · rename_i whole fraction parts
      rw [parts] at shape
      simp only [ite_error_eq_ok_iff] at accepted
      obtain ⟨before, behind, accepted⟩ := accepted
      split at accepted
      · rename_i numeric
        rw [Bool.and_eq_true, List.all_eq_true, List.all_eq_true] at numeric
        refine ⟨?_, accepted⟩
        rw [shape]
        exact .pointed whole fraction before numeric.1 behind numeric.2
      · cases accepted
  · rintro ⟨plain, accepted⟩
    obtain ⟨digit, rest, shape, isOne⟩ := plain.exists_cons
    have unsigned : characters.head? ≠ some '-' := by
      rw [shape, List.head?_cons]
      intro minus
      exact ne_of_isDigit isOne '-' (by decide) (Option.some.inj minus)
    rw [if_neg (by rw [shape]; exact List.cons_ne_nil digit rest), if_neg unsigned]
    cases plain with
    | whole _ present numeric =>
        rw [splitAtPoint_of_isDigit numeric]
        dsimp only
        rw [if_pos (List.all_eq_true.mpr numeric)]
        exact accepted
    | pointed whole fraction before numeric behind numericBehind =>
        rw [splitAtPoint_append numeric]
        dsimp only
        rw [if_neg before, if_neg behind, if_pos]
        · exact accepted
        · rw [List.all_eq_true.mpr numeric, List.all_eq_true.mpr numericBehind]
          rfl

end Amount

/-- A number at the bound of the coefficient that does not end in a zero is no sum of money. -/
theorem not_isMoney_of_not_dvd {coefficient scale : Nat} (large : 10 ^ 27 ≤ coefficient)
    (unround : ¬ 10 ∣ coefficient) : ¬ IsMoney (coefficient / 10 ^ scale) := by
  rintro ⟨_, ⟨units, whole⟩, bounded⟩
  rw [Decimal.value_maximumAmount, div_le_iff₀ (by positivity)] at bounded
  have long : 2 < scale := by
    by_contra short
    have power : (10 : Rat) ^ scale ≤ 10 ^ 2 := by
      gcongr
      · norm_num
      · omega
    have least : (10 : Rat) ^ 27 ≤ coefficient := by exact_mod_cast large
    linarith
  rw [div_mul_eq_mul_div, div_eq_iff (by positivity)] at whole
  have split : (10 : Rat) ^ scale = 10 ^ (scale - 3) * 10 * 10 ^ balanceDecimals := by
    rw [← pow_succ, ← pow_add]
    congr 1
    rw [balanceDecimals]
    omega
  rw [split, ← mul_assoc, ← mul_assoc] at whole
  have multiple := mul_right_cancel₀ (by positivity) whole
  refine unround (Int.natCast_dvd_natCast.mp ⟨units * 10 ^ (scale - 3), ?_⟩)
  rw [mul_comm]
  exact_mod_cast multiple

theorem IsMoney.representable {value : Rat} (money : IsMoney value) : Representable value := by
  obtain ⟨positive, ⟨units, whole⟩, bounded⟩ := money
  rw [Decimal.value_maximumAmount] at bounded
  have same : value = units / 10 ^ balanceDecimals := by
    rw [← whole, mul_div_cancel_right₀ _ (by positivity)]
  rw [same]
  refine representable_of_bounds ?_ (by decide)
  have above : (0 : Rat) < units := by
    rw [← whole]
    positivity
  have below : (units : Rat) ≤ 99999999999999999999 := by
    rw [← whole, balanceDecimals]
    linarith
  have positive : 0 < units := by exact_mod_cast above
  have small : units ≤ 99999999999999999999 := by exact_mod_cast below
  omega

theorem not_isMoney_of_large {value : Rat} (large : 2 ^ 96 ≤ value) : ¬ IsMoney value := by
  intro money
  have bounded := money.bounded
  rw [Decimal.value_maximumAmount] at bounded
  linarith

namespace Amount

variable {characters : List Char} {currency : Currency}

theorem exists_ofDecimal_eq_ok_iff_isMoney (number : Decimal) :
    (∃ amount : Amount currency, ofDecimal number currency = .ok amount) ↔
      IsMoney number.value :=
  (exists_ofDecimal_eq_ok_iff number currency).trans (isMoney_iff_bounds number).symm

theorem ofPlain_kept (plain : IsPlain characters) :
    ((∃ amount, ofPlain characters currency = .ok amount) ↔
      IsMoney (kept (Numeral.ofPlain characters).size)) ∧
    ∀ amount, ofPlain characters currency = .ok amount →
      amount.value.value = kept (Numeral.ofPlain characters).size := by
  rcases parseCharacters_cases plain with
    ⟨number, parsed, same⟩ | ⟨number, scale, parsed, carried, missed⟩ | ⟨fault, parsed, large⟩
  · have made : ofPlain characters currency = ofDecimal number currency := by
      rw [ofPlain, parsed]
    rw [made, ← same]
    refine ⟨exists_ofDecimal_eq_ok_iff_isMoney number, fun amount accepted => ?_⟩
    rw [(ofDecimal_eq_ok_iff number amount).mp accepted]
  · have made : ofPlain characters currency = ofDecimal number currency := by
      rw [ofPlain, parsed]
    have refused : ¬ ∃ amount : Amount currency, ofDecimal number currency = .ok amount := by
      rw [exists_ofDecimal_eq_ok_iff_isMoney, carried]
      exact not_isMoney_of_not_dvd (by decide) (by decide)
    rw [made, missed]
    refine ⟨iff_of_false refused (not_isMoney_of_not_dvd (by decide) (by decide)), ?_⟩
    exact fun amount accepted => absurd ⟨amount, accepted⟩ refused
  · have refused (amount : Amount currency) : ofPlain characters currency ≠ .ok amount := by
      rw [ofPlain, parsed]
      exact nofun
    refine ⟨iff_of_false (fun ⟨amount, accepted⟩ => refused amount accepted)
      (not_isMoney_of_large large), fun amount accepted => absurd accepted (refused amount)⟩

/--
A text is accepted exactly if, without the blanks around it, it holds digits and maybe a point
with digits on both sides, and if what is kept of the number written is a sum of money; then that
is the amount.  What is kept is the number written, if this is a sum of money or if any decimal
number has its value.  Other numbers are rounded first.
-/
theorem texts_accepted (text : String) (currency : Currency) :
    let characters := trimmed text.toList
    let written := (Numeral.ofPlain characters).value
    ((∃ amount, parse text currency = .ok amount) ↔
      IsPlain characters ∧ IsMoney (kept written)) ∧
    (∀ amount, parse text currency = .ok amount → amount.value.value = kept written) ∧
    (IsPlain characters → IsMoney written ∨ Representable written → kept written = written) := by
  intro characters written
  refine ⟨?_, fun amount accepted => ?_, fun plain fits => ?_⟩
  · simp only [parse_eq_ok_iff, exists_and_left]
    refine and_congr_right fun plain => ?_
    rw [(ofPlain_kept plain).1, ← plain.value_ofPlain]
  · obtain ⟨plain, accepted⟩ := (parse_eq_ok_iff text amount).mp accepted
    rw [(ofPlain_kept plain).2 amount accepted, ← plain.value_ofPlain]
  · have nonneg : 0 ≤ written := by
      rw [show written = (Numeral.ofPlain characters).size from plain.value_ofPlain]
      exact Numeral.size_nonneg _
    exact kept_eq_self_of_representable nonneg (fits.elim IsMoney.representable id)

/-- There is no room for the last digit of this text, which is no sum of money. -/
example : (parse "10.00000000000000000000000000001" .lira).toOption.map
    (fun amount => (amount.value.coefficient, amount.value.scale)) = some (10 ^ 28, 27) := by
  decide +kernel

end Amount

end Clearing
