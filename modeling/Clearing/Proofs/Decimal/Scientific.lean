import Clearing.Proofs.Decimal.Exactness
import Mathlib.Data.List.TakeWhile
/-!
Decimal numbers with a power of ten.  The number before the power is read first, so that it
has to have room by itself; a division may round once more.
-/

namespace Clearing.Decimal

open Text

theorem isExponentMark_of_isDigit {character : Char} (isOne : isDigit character = true) :
    isExponentMark character = false := by
  have small := ne_of_isDigit isOne 'e' (by decide)
  have capital := ne_of_isDigit isOne 'E' (by decide)
  simp [isExponentMark, small, capital]

theorem isExponentMark_of_checkRest_eq_ok {rest : List Char}
    (checked : checkRest rest = .ok ()) :
    ∀ character ∈ rest, isExponentMark character = false := by
  induction rest with
  | nil => simp
  | cons character rest inductionHypothesis =>
      rw [checkRest] at checked
      split at checked
      · rename_i plain
        rw [List.forall_mem_cons]
        refine ⟨?_, inductionHypothesis checked⟩
        rw [Bool.or_eq_true, beq_iff_eq] at plain
        rcases plain with isOne | rfl
        · exact isExponentMark_of_isDigit isOne
        · decide
      · split at checked <;> cases checked

theorem isExponentMark_of_readPlain_eq_ok {reading result : Reading} {rest : List Char}
    (read : readPlain reading rest = .ok result) :
    ∀ character ∈ rest, isExponentMark character = false := by
  induction rest generalizing reading with
  | nil => simp
  | cons character rest inductionHypothesis =>
      rw [List.forall_mem_cons]
      cases readStep_of_readPlain_eq_ok read with
      | decimal _ isOne _ behind | whole _ isOne _ behind =>
          exact ⟨isExponentMark_of_isDigit isOne, inductionHypothesis behind⟩
      | rounded _ isOne _ _ _ checked =>
          exact ⟨isExponentMark_of_isDigit isOne, isExponentMark_of_checkRest_eq_ok checked⟩
      | point _ behind => exact ⟨by decide, inductionHypothesis behind⟩
      | ended _ checked _ => exact ⟨by decide, isExponentMark_of_checkRest_eq_ok checked⟩
      | separator behind => exact ⟨by decide, inductionHypothesis behind⟩

theorem isExponentMark_of_parseCharacters_eq_ok {characters : List Char} {number : Decimal}
    (parsed : parseCharacters characters = .ok number) :
    ∀ character ∈ characters, isExponentMark character = false := by
  obtain ⟨rest, result, reading, _, _, members⟩ := exists_of_parseCharacters_eq_ok parsed
  intro character member
  rcases members character member with inside | rfl | rfl
  · exact isExponentMark_of_readPlain_eq_ok reading character inside
  · decide
  · decide

theorem value_of_shiftUp_eq_ok {base number : Decimal} {exponent : Nat}
    (shifted : shiftUp base exponent = .ok number) :
    number.value = base.value * 10 ^ exponent := by
  have taken {parts : Option Decimal}
      (made : parts.elim (.error TextFault.tooLarge) Except.ok = .ok number) :
      parts = some number := by
    cases parts with
    | none => cases made
    | some other =>
        cases made
        rfl
  unfold shiftUp at shifted
  rw [value_eq_div base]
  split at shifted
  · rename_i small
    have power : (10 : Rat) ^ base.scale = 10 ^ (base.scale - exponent) * 10 ^ exponent := by
      rw [← pow_add, Nat.sub_add_cancel small]
    rw [value_of_ofParts? (taken shifted), power, ← div_div, div_mul_cancel₀ _ (by positivity)]
  · rename_i large
    split at shifted
    · have power : (10 : Rat) ^ exponent = 10 ^ base.scale * 10 ^ (exponent - base.scale) := by
        rw [← pow_add]
        congr 1
        omega
      rw [value_of_ofParts? (taken shifted), pow_zero, div_one, power, ← mul_assoc,
        div_mul_cancel₀ _ (by positivity)]
      push_cast
      rfl
    · cases shifted

theorem reduceScale_mul_pow {number : Decimal} {scale : Nat}
    (zeros : 10 ^ (number.scale - scale) ∣ number.coefficient.natAbs) :
    number.reduceScale scale * 10 ^ (number.scale - scale) = number.coefficient.natAbs := by
  unfold reduceScale
  generalize number.coefficient.natAbs = size at zeros
  cases dropped : number.scale - scale with
  | zero => simp
  | succ fewer =>
      rw [dropped] at zeros
      obtain ⟨kept, rfl⟩ := zeros
      have quotient : 10 ^ (fewer + 1) * kept / 10 ^ (fewer + 1) = kept :=
        Nat.mul_div_cancel_left kept (by positivity)
      have digit : 10 ^ (fewer + 1) * kept / 10 ^ fewer % 10 = 0 := by
        rw [pow_succ, mul_assoc, Nat.mul_div_cancel_left _ (by positivity)]
        exact Nat.mul_mod_right 10 kept
      dsimp only
      rw [if_neg (Nat.succ_ne_zero fewer), quotient, Nat.add_sub_cancel, digit,
        if_pos (by decide), mul_comm]

/-- What the coefficient of a divided number ends in, if the quotient has room. -/
theorem pow_dvd_of_representable {base : Decimal} {exponent : Nat}
    (long : 28 < base.scale + exponent) (short : exponent ≤ 28)
    (representable : Representable (base.value / 10 ^ exponent)) :
    10 ^ (base.scale - (28 - exponent)) ∣ base.coefficient.natAbs := by
  obtain ⟨number, same⟩ := representable
  rw [value_eq_div, value_eq_div, div_div, ← pow_add,
    div_eq_div_iff (by positivity) (by positivity)] at same
  have whole : number.coefficient * 10 ^ (base.scale + exponent) =
      base.coefficient * 10 ^ number.scale := by
    exact_mod_cast same
  have split : (10 : Int) ^ (base.scale + exponent) =
      10 ^ (28 - number.scale + (base.scale - (28 - exponent))) * 10 ^ number.scale := by
    rw [← pow_add]
    congr 1
    have bound := number.scale_le
    omega
  rw [split, ← mul_assoc, pow_add, ← mul_assoc] at whole
  have multiple := mul_right_cancel₀ (by positivity) whole
  have divides : (10 : Int) ^ (base.scale - (28 - exponent)) ∣ base.coefficient :=
    Dvd.intro_left _ multiple
  exact_mod_cast Int.natAbs_dvd_natAbs.mpr divides

theorem sign_mul_natAbs_div {coefficient : Int} {size dropped scale : Nat}
    (same : size * 10 ^ dropped = coefficient.natAbs) :
    ((coefficient.sign * size : Int) : Rat) / 10 ^ scale =
      coefficient / 10 ^ (scale + dropped) := by
  have whole : coefficient.sign * size * 10 ^ dropped = coefficient := by
    rw [mul_assoc]
    exact_mod_cast same ▸ Int.sign_mul_natAbs coefficient
  rw [div_eq_div_iff (by positivity) (by positivity), pow_add, mul_comm (10 ^ scale : Rat),
    ← mul_assoc]
  congr 1
  exact_mod_cast whole

/-- Dividing by a power of ten is exact just if the quotient has room. -/
theorem value_of_shiftDown_eq_ok {base number : Decimal} {exponent : Nat}
    (shifted : shiftDown base exponent = .ok number) :
    exponent ≤ number.scale ∧
      (Representable (base.value / 10 ^ exponent) →
        number.value = base.value / 10 ^ exponent) := by
  unfold shiftDown at shifted
  split at shifted
  · cases shifted
  · rename_i short
    rw [not_lt] at short
    dsimp only at shifted
    split at shifted
    · rename_i other moved
      cases shifted
      split at moved
      · have value := value_of_ofParts? moved
        unfold ofParts? at moved
        split_ifs at moved
        cases moved
        refine ⟨Nat.le_add_left _ _, fun _ => ?_⟩
        rw [value, value_eq_div base, div_div, pow_add]
      · rename_i long
        rw [not_le] at long
        split at moved
        · rename_i none
          cases moved
          refine ⟨short, fun representable => ?_⟩
          have size := reduceScale_mul_pow (pow_dvd_of_representable long short representable)
          rw [none.1, Nat.zero_mul] at size
          omega
        · have value := value_of_ofParts? moved
          unfold ofParts? at moved
          split_ifs at moved
          cases moved
          refine ⟨short, fun representable => ?_⟩
          have size := reduceScale_mul_pow (pow_dvd_of_representable long short representable)
          rw [value, sign_mul_natAbs_div size, value_eq_div base, div_div, ← pow_add]
          congr 2
          omega
    · cases shifted

theorem decimalNumber_filter_of_natural? {characters : List Char} {number : Nat}
    (read : natural? characters = some number) :
    decimalNumber (characters.filter isDigit) = number := by
  have taken {digits : List Char}
      (read : (if digits ≠ [] ∧ digits.all isDigit then some (decimalNumber digits) else none) =
        some number) :
      decimalNumber (digits.filter isDigit) = number := by
    split_ifs at read with numeric
    cases read
    rw [List.filter_eq_self.mpr (List.all_eq_true.mp numeric.2)]
  unfold natural? at read
  dsimp only at read
  split at read
  · rw [List.filter_cons_of_neg (by decide)]
    exact taken read
  · exact taken read

theorem decimalNumber_filter_of_exponent? {characters : List Char} {exponent : Nat}
    (read : exponent? characters = some exponent) :
    decimalNumber (characters.filter isDigit) = exponent := by
  rw [exponent?, Option.filter_eq_some_iff] at read
  exact decimalNumber_filter_of_natural? read.1

/-- How a text with a power of ten is read. -/
theorem exists_of_parseScientific_eq_ok {text : String} {number : Decimal}
    (parsed : parseScientific text = .ok number) :
    ∃ base exponent,
      parseCharacters (Numeral.significandText text.toList) = .ok base ∧
        (shiftDown base exponent = .ok number ∧
            Numeral.powerOfText (Numeral.exponentText text.toList) = -(exponent : Int) ∨
          shiftUp base exponent = .ok number ∧
            Numeral.powerOfText (Numeral.exponentText text.toList) = exponent) := by
  unfold parseScientific at parsed
  dsimp only at parsed
  split at parsed
  · cases parsed
  · rename_i mark exponentText shape
    have behind : Numeral.exponentText text.toList = exponentText := by
      rw [Numeral.exponentText, shape]
      rfl
    rw [behind]
    obtain ⟨base, first, shifted⟩ := (bind_eq_ok_iff _ _ _).mp parsed
    refine ⟨base, ?_⟩
    split at shifted
    · rename_i digits
      split at shifted
      · rename_i exponent size
        refine ⟨exponent, first, .inl ⟨shifted, ?_⟩⟩
        rw [← decimalNumber_filter_of_exponent? size]
        rfl
      · cases shifted
    · rename_i plain
      split at shifted
      · rename_i exponent size
        refine ⟨exponent, first, .inr ⟨shifted, ?_⟩⟩
        have unsigned : exponentText.head? ≠ some '-' := by
          intro minus
          obtain ⟨rest, shape⟩ := List.head?_eq_some_iff.mp minus
          exact plain rest shape
        rw [Numeral.powerOfText, if_neg unsigned, decimalNumber_filter_of_exponent? size]
      · cases shifted

theorem value_ofText_of_plain {text : String}
    (plain : ∀ character ∈ text.toList, isExponentMark character = false) :
    Numeral.significandText text.toList = text.toList ∧
      (Numeral.ofText text).value = (Numeral.significand text).value := by
  have all : ∀ character ∈ text.toList, (!isExponentMark character) = true := by
    intro character member
    rw [plain character member]
    rfl
  refine ⟨List.takeWhile_eq_self_iff.mpr all, ?_⟩
  have nothing : Numeral.exponentText text.toList = [] := by
    rw [Numeral.exponentText, List.dropWhile_eq_nil_iff.mpr all]
    rfl
  rw [Numeral.value_ofText, nothing]
  exact mul_one _

theorem Representable.mul_pow {number : Decimal} {exponent : Nat}
    (short : exponent ≤ number.scale) :
    Representable (number.value * 10 ^ exponent) := by
  have power : (10 : Rat) ^ number.scale = 10 ^ (number.scale - exponent) * 10 ^ exponent := by
    rw [← pow_add, Nat.sub_add_cancel short]
  rw [value_eq_div, power, ← div_div, div_mul_cancel₀ _ (by positivity)]
  exact representable_of_bounds number.bounded ((Nat.sub_le _ _).trans number.scale_le)

/--
A text is read exactly just if what it denotes has room, and if what stands before its
power of ten has.
-/
theorem value_eq_iff_of_parseEither_eq_ok {text : String} {number : Decimal}
    (parsed : parseEither text = .ok number) :
    number.value = (Numeral.ofText text).value ↔
      Representable (Numeral.significand text).value ∧
        Representable (Numeral.ofText text).value := by
  unfold parseEither at parsed
  split at parsed
  · rename_i other plain
    cases parsed
    obtain ⟨whole, same⟩ := value_ofText_of_plain
      (isExponentMark_of_parseCharacters_eq_ok plain)
    rw [same, and_self, Numeral.significand, whole]
    exact value_eq_iff_of_parseCharacters_eq_ok plain
  · split at parsed
    · obtain ⟨base, exponent, first, second⟩ := exists_of_parseScientific_eq_ok parsed
      have baseValue := value_eq_iff_of_parseCharacters_eq_ok first
      change base.value = (Numeral.significand text).value ↔
        Representable (Numeral.significand text).value at baseValue
      rw [Numeral.value_ofText]
      constructor
      · intro same
        rw [← same, ← baseValue]
        refine ⟨?_, number, rfl⟩
        rcases second with ⟨shifted, power⟩ | ⟨shifted, power⟩
        · rw [baseValue]
          have short := (value_of_shiftDown_eq_ok shifted).1
          rw [power, zpow_neg, zpow_natCast, eq_mul_inv_iff_mul_eq₀ (by positivity)] at same
          rw [← same]
          exact .mul_pow short
        · rw [value_of_shiftUp_eq_ok shifted, power, zpow_natCast] at same
          exact mul_right_cancel₀ (by positivity) same
      · rintro ⟨room, whole⟩
        have exact' := baseValue.mpr room
        rw [← exact'] at whole ⊢
        rcases second with ⟨shifted, power⟩ | ⟨shifted, power⟩
        · rw [power, zpow_neg, zpow_natCast, ← div_eq_mul_inv] at whole ⊢
          exact (value_of_shiftDown_eq_ok shifted).2 whole
        · rw [power, zpow_natCast]
          exact value_of_shiftUp_eq_ok shifted
    · cases parsed

end Clearing.Decimal
