import Clearing.Text.Ascii
import Clearing.Text.Blank
/-!
Decimal digits: which characters they are, and the numbers that runs of them
denote.
-/

namespace Clearing.Text

theorem isDigit_eq (character : Char) : isDigit character = character.isDigit :=
  rfl

theorem isDigit_of_mem_toDigits {character : Char} {number : Nat}
    (member : character ∈ Nat.toDigits 10 number) : isDigit character = true := by
  rw [isDigit_eq]
  exact Nat.isDigit_of_mem_toDigits (by decide) (by decide) member

theorem isDigit_digitChar : ∀ value < 10, isDigit (Nat.digitChar value) = true := by
  decide

theorem ne_of_isDigit {digit : Char} (isOne : isDigit digit = true) (other : Char)
    (isNone : isDigit other = false) : digit ≠ other := by
  rintro rfl
  rw [isOne] at isNone
  cases isNone

theorem toNat_of_isDigit {digit : Char} (isOne : isDigit digit = true) :
    48 ≤ digit.toNat ∧ digit.toNat ≤ 57 := by
  simp only [isDigit, Bool.and_eq_true, decide_eq_true_eq] at isOne
  exact isOne

theorem isBlank_of_isDigit {digit : Char} (isOne : isDigit digit = true) :
    isBlank digit = false := by
  have range := toNat_of_isDigit isOne
  simp only [isBlank, blankRanges, List.any_eq_false, List.mem_cons,
    List.not_mem_nil, or_false, Bool.and_eq_true, decide_eq_true_eq, not_and]
  rintro bounds (rfl | rfl | rfl | rfl | rfl | rfl | rfl | rfl | rfl | rfl) <;>
    omega

theorem trimStart_cons_of_isDigit {digit : Char} (isOne : isDigit digit = true)
    (rest : List Char) : trimStart (digit :: rest) = digit :: rest := by
  simp [trimStart, isBlank_of_isDigit isOne]

theorem le_ofDigitChars (digits : List Char) (start : Nat) :
    start ≤ Nat.ofDigitChars 10 digits start := by
  rw [Nat.ofDigitChars_eq_ofDigitChars_zero]
  have positive : 1 ≤ 10 ^ digits.length := Nat.one_le_pow _ _ (by decide)
  calc start = 1 * start := (Nat.one_mul start).symm
    _ ≤ 10 ^ digits.length * start := Nat.mul_le_mul_right start positive
    _ ≤ _ := Nat.le_add_right _ _

/-- The digits of a number, with zeros in front up to a width. -/
def paddedDigits (width number : Nat) : List Char :=
  let digits := Nat.toDigits 10 number
  List.replicate (width - digits.length) '0' ++ digits

theorem isDigit_of_mem_paddedDigits {width number : Nat} {digit : Char}
    (member : digit ∈ paddedDigits width number) : isDigit digit = true := by
  rcases List.mem_append.mp member with zero | written
  · rw [List.eq_of_mem_replicate zero]
    rfl
  · exact isDigit_of_mem_toDigits written

theorem length_paddedDigits (width number : Nat) :
    (paddedDigits width number).length =
      max width (Nat.toDigits 10 number).length := by
  simp only [paddedDigits, List.length_append, List.length_replicate]
  omega

theorem decimalNumber_paddedDigits (width number : Nat) :
    decimalNumber (paddedDigits width number) = number := by
  rw [decimalNumber, paddedDigits, Nat.ofDigitChars_append,
    Nat.ofDigitChars_replicate_zero, Nat.mul_zero, Nat.ofDigitChars_ten_toDigits]

end Clearing.Text
