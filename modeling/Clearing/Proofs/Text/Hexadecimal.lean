import Clearing.Proofs.Text.Digits
import Mathlib.Data.List.Induction
/-!
Hexadecimal digits.  A run of lower-case digits is the only one of its length that denotes its
number, and it is what the number is written as at that width.
-/

namespace Clearing.Text

theorem toNat_of_isLowerHex {digit : Char} (isOne : isLowerHex digit = true) :
    48 ≤ digit.toNat ∧ digit.toNat ≤ 57 ∨ 97 ≤ digit.toNat ∧ digit.toNat ≤ 102 := by
  simp only [isLowerHex, isDigit, Bool.or_eq_true, Bool.and_eq_true, decide_eq_true_eq] at isOne
  exact isOne

theorem isLowerHex_hexDigit : ∀ value < 16, isLowerHex (hexDigit value) = true := by
  decide

theorem hexValue_hexDigit : ∀ value < 16, hexValue (hexDigit value) = value := by
  decide

theorem hexDigit_sub_eq_ofNat :
    (∀ code ≤ 57, 48 ≤ code → hexDigit (code - 48) = Char.ofNat code) ∧
      ∀ code ≤ 102, 97 ≤ code → hexDigit (code - 87) = Char.ofNat code := by
  decide

theorem exists_hexDigit_eq {digit : Char} (isOne : isLowerHex digit = true) :
    ∃ value < 16, hexDigit value = digit := by
  rcases toNat_of_isLowerHex isOne with ⟨above, below⟩ | ⟨above, below⟩
  · refine ⟨digit.toNat - 48, by omega, ?_⟩
    rw [hexDigit_sub_eq_ofNat.1 digit.toNat below above, Char.ofNat_toNat]
  · refine ⟨digit.toNat - 87, by omega, ?_⟩
    rw [hexDigit_sub_eq_ofNat.2 digit.toNat below above, Char.ofNat_toNat]

theorem hexValue_lt {digit : Char} (isOne : isLowerHex digit = true) : hexValue digit < 16 := by
  obtain ⟨value, small, rfl⟩ := exists_hexDigit_eq isOne
  rwa [hexValue_hexDigit value small]

theorem hexDigit_hexValue {digit : Char} (isOne : isLowerHex digit = true) :
    hexDigit (hexValue digit) = digit := by
  obtain ⟨value, small, rfl⟩ := exists_hexDigit_eq isOne
  rw [hexValue_hexDigit value small]

theorem hexValue_eq_zero_iff {digit : Char} (isOne : isLowerHex digit = true) :
    hexValue digit = 0 ↔ digit = '0' := by
  constructor
  · intro none
    rw [← hexDigit_hexValue isOne, none]
    rfl
  · rintro rfl
    rfl

theorem isBlank_of_isLowerHex {digit : Char} (isOne : isLowerHex digit = true) :
    isBlank digit = false := by
  obtain ⟨value, small, rfl⟩ := exists_hexDigit_eq isOne
  revert value
  decide

theorem hexNumber_concat (digits : List Char) (digit : Char) :
    hexNumber (digits ++ [digit]) = 16 * hexNumber digits + hexValue digit := by
  rw [hexNumber, List.foldl_append]
  rfl

theorem hexNumber_lt {digits : List Char} (lower : ∀ digit ∈ digits, isLowerHex digit = true) :
    hexNumber digits < 16 ^ digits.length := by
  induction digits using List.reverseRecOn with
  | nil => decide
  | append_singleton digits digit inductionHypothesis =>
      have front := inductionHypothesis fun other member =>
        lower other (List.mem_append_left _ member)
      have last := hexValue_lt (lower digit (by simp))
      rw [hexNumber_concat, List.length_append, List.length_singleton, Nat.pow_succ]
      omega

theorem hexNumber_eq_zero_iff {digits : List Char}
    (lower : ∀ digit ∈ digits, isLowerHex digit = true) :
    hexNumber digits = 0 ↔ ∀ digit ∈ digits, digit = '0' := by
  induction digits using List.reverseRecOn with
  | nil => exact ⟨nofun, fun _ => rfl⟩
  | append_singleton digits digit inductionHypothesis =>
      have front := inductionHypothesis fun other member =>
        lower other (List.mem_append_left _ member)
      rw [hexNumber_concat, Nat.add_eq_zero_iff, Nat.mul_eq_zero,
        hexValue_eq_zero_iff (lower digit (by simp)), front, List.forall_mem_append,
        List.forall_mem_singleton]
      exact and_congr_left fun _ => or_iff_right (by decide)

theorem length_hexText (width value : Nat) : (hexText width value).length = width := by
  induction width generalizing value with
  | zero => rfl
  | succ width inductionHypothesis => simp [hexText, inductionHypothesis]

theorem isLowerHex_of_mem_hexText {width value : Nat} {digit : Char}
    (member : digit ∈ hexText width value) : isLowerHex digit = true := by
  induction width generalizing value with
  | zero => cases member
  | succ width inductionHypothesis =>
      rcases List.mem_append.mp member with front | last
      · exact inductionHypothesis front
      · rw [List.mem_singleton.mp last]
        exact isLowerHex_hexDigit _ (Nat.mod_lt value (by decide))

theorem hexNumber_hexText (width value : Nat) :
    hexNumber (hexText width value) = value % 16 ^ width := by
  induction width generalizing value with
  | zero => exact (Nat.mod_one value).symm
  | succ width inductionHypothesis =>
      rw [hexText, hexNumber_concat, inductionHypothesis,
        hexValue_hexDigit _ (Nat.mod_lt value (by decide)), Nat.pow_succ',
        Nat.mod_mul, Nat.add_comm]

theorem hexNumber_hexText_of_lt {width value : Nat} (bounded : value < 16 ^ width) :
    hexNumber (hexText width value) = value := by
  rw [hexNumber_hexText, Nat.mod_eq_of_lt bounded]

theorem hexText_hexNumber {digits : List Char}
    (lower : ∀ digit ∈ digits, isLowerHex digit = true) :
    hexText digits.length (hexNumber digits) = digits := by
  induction digits using List.reverseRecOn with
  | nil => rfl
  | append_singleton digits digit inductionHypothesis =>
      have front := inductionHypothesis fun other member =>
        lower other (List.mem_append_left _ member)
      have isOne := lower digit (by simp)
      have value := hexValue_lt isOne
      rw [hexNumber_concat, List.length_append, List.length_singleton, hexText,
        show (16 * hexNumber digits + hexValue digit) / 16 = hexNumber digits by omega,
        show (16 * hexNumber digits + hexValue digit) % 16 = hexValue digit by omega,
        front, hexDigit_hexValue isOne]

/-! Digits of either case. -/

theorem isHex_iff (digit : Char) :
    isHex digit = true ↔ isLowerHex digit = true ∨ 65 ≤ digit.toNat ∧ digit.toNat ≤ 70 := by
  simp only [isHex, Bool.or_eq_true, Bool.and_eq_true, decide_eq_true_eq]
  exact Iff.rfl

theorem lower_of_isLowerHex {digit : Char} (isOne : isLowerHex digit = true) :
    lower digit = digit := by
  obtain ⟨value, small, rfl⟩ := exists_hexDigit_eq isOne
  revert value
  decide

theorem isLowerHex_lower_ofNat : ∀ code ≤ 70, 65 ≤ code →
    isLowerHex (lower (Char.ofNat code)) = true ∧
      hexValue (lower (Char.ofNat code)) = hexValue (Char.ofNat code) := by
  decide

theorem isLowerHex_lower {digit : Char} (isOne : isHex digit = true) :
    isLowerHex (lower digit) = true ∧ hexValue (lower digit) = hexValue digit := by
  rcases (isHex_iff digit).mp isOne with small | ⟨above, below⟩
  · rw [lower_of_isLowerHex small]
    exact ⟨small, rfl⟩
  · have folded := isLowerHex_lower_ofNat digit.toNat below above
    rwa [Char.ofNat_toNat] at folded

theorem hexNumber_map_lower {digits : List Char} (hex : ∀ digit ∈ digits, isHex digit = true) :
    hexNumber (digits.map lower) = hexNumber digits := by
  induction digits using List.reverseRecOn with
  | nil => rfl
  | append_singleton digits digit inductionHypothesis =>
      rw [List.map_append, List.map_singleton, hexNumber_concat, hexNumber_concat,
        inductionHypothesis fun other member => hex other (List.mem_append_left _ member),
        (isLowerHex_lower (hex digit (by simp))).2]

theorem isLowerHex_of_mem_map_lower {digits : List Char}
    (hex : ∀ digit ∈ digits, isHex digit = true) :
    ∀ digit ∈ digits.map lower, isLowerHex digit = true := by
  intro _ member
  obtain ⟨digit, held, rfl⟩ := List.mem_map.mp member
  exact (isLowerHex_lower (hex digit held)).1

theorem hexText_hexNumber_eq_map_lower {digits : List Char}
    (hex : ∀ digit ∈ digits, isHex digit = true) :
    hexText digits.length (hexNumber digits) = digits.map lower := by
  have written := hexText_hexNumber (isLowerHex_of_mem_map_lower hex)
  rwa [List.length_map, hexNumber_map_lower hex] at written

/-- Runs of digits of one length denote one number exactly if they differ in case at most. -/
theorem hexNumber_eq_iff {first second : List Char}
    (firstHex : ∀ digit ∈ first, isHex digit = true)
    (secondHex : ∀ digit ∈ second, isHex digit = true)
    (aligned : first.length = second.length) :
    hexNumber first = hexNumber second ↔ first.map lower = second.map lower := by
  constructor
  · intro same
    rw [← hexText_hexNumber_eq_map_lower firstHex, ← hexText_hexNumber_eq_map_lower secondHex,
      aligned, same]
  · intro same
    rw [← hexNumber_map_lower firstHex, same, hexNumber_map_lower secondHex]

theorem hexNumber_lt_of_isHex {digits : List Char}
    (hex : ∀ digit ∈ digits, isHex digit = true) : hexNumber digits < 16 ^ digits.length := by
  have bounded := hexNumber_lt (isLowerHex_of_mem_map_lower hex)
  rwa [List.length_map, hexNumber_map_lower hex] at bounded

/-! Numbers written with as many digits as they need. -/

theorem toDigits_sixteen (number : Nat) :
    Nat.toDigits 16 number =
      if number < 16 then [hexDigit number]
      else Nat.toDigits 16 (number / 16) ++ [hexDigit (number % 16)] :=
  Nat.toDigits_eq_if (by decide)

theorem isLowerHex_of_mem_toDigits {number : Nat} {digit : Char}
    (member : digit ∈ Nat.toDigits 16 number) : isLowerHex digit = true := by
  induction number using Nat.strongRecOn with
  | ind number inductionHypothesis =>
      rw [toDigits_sixteen] at member
      split at member
      · rename_i small
        rw [List.mem_singleton.mp member]
        exact isLowerHex_hexDigit number small
      · rcases List.mem_append.mp member with front | last
        · exact inductionHypothesis (number / 16) (by omega) front
        · rw [List.mem_singleton.mp last]
          exact isLowerHex_hexDigit _ (Nat.mod_lt number (by decide))

theorem hexNumber_toDigits (number : Nat) : hexNumber (Nat.toDigits 16 number) = number := by
  induction number using Nat.strongRecOn with
  | ind number inductionHypothesis =>
      rw [toDigits_sixteen]
      split
      · rename_i small
        exact (Nat.zero_add _).trans (hexValue_hexDigit number small)
      · rw [hexNumber_concat, inductionHypothesis (number / 16) (by omega),
          hexValue_hexDigit _ (Nat.mod_lt number (by decide)), Nat.div_add_mod]

theorem toDigits_sixteen_injective : Function.Injective (Nat.toDigits 16) :=
  Function.LeftInverse.injective hexNumber_toDigits

end Clearing.Text
