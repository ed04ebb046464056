import Clearing.Decimal.Text
import Clearing.Proofs.Text.Digits
/-!
A decimal number is read back from its text, with its scale.  Only the sign of a
zero is written and not read.
-/

namespace Clearing.Decimal

open Text

/-- A reading after some more digits, all of which have room. -/
def Reading.through (reading : Reading) (digits : List Char) : Reading :=
  { reading with
    coefficient := Nat.ofDigitChars 10 digits reading.coefficient
    scale :=
      if reading.pointSeen then reading.scale + digits.length else reading.scale
    digitSeen := reading.digitSeen || !digits.isEmpty }

/-- Digits that have room are collected one after the other. -/
theorem readPlain_append {digits : List Char}
    (numeric : ∀ digit ∈ digits, isDigit digit = true) (reading : Reading)
    (bounded : (reading.through digits).coefficient < 2 ^ 96)
    (shorter : (reading.through digits).scale ≤ 28) (rest : List Char) :
    readPlain reading (digits ++ rest) =
      readPlain (reading.through digits) rest := by
  induction digits generalizing reading with
  | nil => simp [Reading.through]
  | cons digit digits inductionHypothesis =>
      have isOne := numeric digit (by simp)
      have others : ∀ digit ∈ digits, isDigit digit = true := fun other member =>
        numeric other (List.mem_cons_of_mem _ member)
      obtain ⟨coefficient, scale, pointSeen, digitSeen⟩ := reading
      have room : 10 * coefficient + (digit.toNat - '0'.toNat) < 2 ^ 96 :=
        Nat.lt_of_le_of_lt (le_ofDigitChars digits _)
          (by rwa [Reading.through, Nat.ofDigitChars_cons] at bounded)
      rw [List.cons_append, readPlain, if_pos isOne]
      cases pointSeen with
      | false =>
          have step : Reading.through ⟨coefficient, scale, false, digitSeen⟩
                (digit :: digits) =
              Reading.through
                ⟨10 * coefficient + (digit.toNat - '0'.toNat), scale, false, true⟩
                digits := by
            simp [Reading.through, Nat.ofDigitChars_cons]
          rw [step] at bounded shorter ⊢
          rw [if_neg (by simp), if_pos room]
          exact inductionHypothesis others _ bounded shorter
      | true =>
          have step : Reading.through ⟨coefficient, scale, true, digitSeen⟩
                (digit :: digits) =
              Reading.through
                ⟨10 * coefficient + (digit.toNat - '0'.toNat), scale + 1, true,
                  true⟩ digits := by
            simp [Reading.through, Nat.ofDigitChars_cons, Nat.add_assoc,
              Nat.add_comm 1]
          have space : scale < 28 := by
            simp only [Reading.through, if_true, List.length_cons] at shorter
            omega
          rw [step] at bounded shorter ⊢
          rw [if_pos rfl, if_pos ⟨space, room⟩]
          exact inductionHypothesis others _ bounded shorter

theorem lt_length_paddedDigits (size scale : Nat) :
    scale < (paddedDigits (scale + 1) size).length := by
  rw [length_paddedDigits]
  exact Nat.le_max_left _ _

/-- A fraction is cut off behind at least one digit. -/
theorem exists_pointed_parts {scale : Nat} (fractional : scale ≠ 0) (size : Nat) :
    ∃ digit before behind,
      pointed size scale = digit :: before ++ '.' :: behind ∧
      paddedDigits (scale + 1) size = digit :: before ++ behind ∧
      behind.length = scale := by
  have long := lt_length_paddedDigits size scale
  have shape : pointed size scale =
      (paddedDigits (scale + 1) size).take ((paddedDigits (scale + 1) size).length - scale) ++
        '.' :: (paddedDigits (scale + 1) size).drop
          ((paddedDigits (scale + 1) size).length - scale) := if_neg fractional
  generalize paddedDigits (scale + 1) size = digits at long shape
  have front : (digits.take (digits.length - scale)).length ≠ 0 := by
    rw [List.length_take]
    omega
  obtain ⟨digit, before, first⟩ := List.exists_cons_of_length_pos
    (Nat.pos_of_ne_zero front)
  refine ⟨digit, before, digits.drop (digits.length - scale), ?_, ?_, ?_⟩
  · rw [shape, first]
  · rw [← first, List.take_append_drop]
  · rw [List.length_drop]
    omega

theorem readPlain_pointed {size scale : Nat} (bounded : size < 2 ^ 96)
    (shorter : scale ≤ 28) :
    ∃ seen, readPlain .start (pointed size scale) =
      .ok { coefficient := size, scale, pointSeen := seen, digitSeen := true } := by
  have value := decimalNumber_paddedDigits (scale + 1) size
  rw [decimalNumber] at value
  have numeric : ∀ digit ∈ paddedDigits (scale + 1) size, isDigit digit = true :=
    fun _ member => isDigit_of_mem_paddedDigits member
  by_cases fractional : scale = 0
  · subst fractional
    refine ⟨false, ?_⟩
    have shape : pointed size 0 = paddedDigits 1 size := rfl
    have present : (paddedDigits 1 size).isEmpty = false := by
      rw [List.isEmpty_eq_false_iff, ← List.length_pos_iff]
      exact lt_length_paddedDigits size 0
    have read := readPlain_append numeric .start
      (by simpa [Reading.through, Reading.start, value] using bounded)
      (by simp [Reading.through, Reading.start]) []
    rw [List.append_nil] at read
    rw [shape, read, readPlain]
    simp [Reading.through, Reading.start, value, present]
  · obtain ⟨digit, before, behind, shape, parts, length⟩ :=
      exists_pointed_parts fractional size
    rw [parts] at numeric value
    rw [Nat.ofDigitChars_append] at value
    refine ⟨true, ?_⟩
    have readBefore := readPlain_append
      (fun digit member => numeric digit (List.mem_append_left _ member)) .start
      (Nat.lt_of_le_of_lt (le_ofDigitChars behind _)
        (by simpa [Reading.through, Reading.start, value] using bounded))
      (by simp [Reading.through, Reading.start]) ('.' :: behind)
    have readBehind := readPlain_append
      (fun digit member => numeric digit (List.mem_append_right _ member))
      { Reading.start.through (digit :: before) with pointSeen := true }
      (by simpa [Reading.through, Reading.start, value] using bounded)
      (by simpa [Reading.through, Reading.start, length] using shorter) []
    rw [List.append_nil] at readBehind
    rw [shape, readBefore, readPlain, if_neg (by decide), if_pos rfl,
      if_neg (by simp [Reading.through, Reading.start]), readBehind, readPlain]
    simp [Reading.through, Reading.start, value, length]

theorem exists_pointed_eq_cons (size scale : Nat) :
    ∃ digit rest, pointed size scale = digit :: rest ∧ isDigit digit = true := by
  by_cases fractional : scale = 0
  · subst fractional
    obtain ⟨digit, rest, shape⟩ := List.exists_cons_of_length_pos
      (lt_length_paddedDigits size 0)
    refine ⟨digit, rest, shape, ?_⟩
    have member : digit ∈ paddedDigits 1 size := by simp [shape]
    exact isDigit_of_mem_paddedDigits member
  · obtain ⟨digit, before, behind, shape, parts, _⟩ :=
      exists_pointed_parts fractional size
    refine ⟨digit, before ++ '.' :: behind, shape, ?_⟩
    have member : digit ∈ paddedDigits (scale + 1) size := by simp [parts]
    exact isDigit_of_mem_paddedDigits member

theorem parseCharacters_of_isDigit {digit : Char} (isOne : isDigit digit = true)
    (rest : List Char) :
    parseCharacters (digit :: rest) =
      (readPlain .start (digit :: rest)).bind (Reading.toDecimal false) := by
  have notMinus := ne_of_isDigit isOne '-' (by decide)
  have notPlus := ne_of_isDigit isOne '+' (by decide)
  rw [parseCharacters]
  · rfl
  · simp
  · simp [notMinus]
  · simp [notPlus]

/-- What is left of a number in writing: a zero is read back without its sign. -/
def plain (number : Decimal) : Decimal where
  coefficient := number.coefficient
  scale := number.scale
  bounded := number.bounded
  scale_le := number.scale_le

theorem plain_eq_self {number : Decimal} (unsigned : number.minusZero = false) :
    number.plain = number := by
  obtain ⟨coefficient, scale, minusZero, bounded, shorter, zero⟩ := number
  subst unsigned
  rfl

theorem toDecimal_eq_ok {number : Decimal} {negative : Bool}
    (signed : (if negative = true then -(number.coefficient.natAbs : Int)
      else number.coefficient.natAbs) = number.coefficient) (seen : Bool) :
    Reading.toDecimal negative
        { coefficient := number.coefficient.natAbs, scale := number.scale
          pointSeen := seen, digitSeen := true } =
      .ok number.plain := by
  simp only [Reading.toDecimal, if_true, signed]
  rw [ofParts?, dif_pos number.bounded, dif_pos number.scale_le]
  rfl

/-- Every number is read back from its text, but for the sign of a zero. -/
theorem parseEither_toText (number : Decimal) :
    parseEither number.toText = .ok number.plain := by
  obtain ⟨seen, read⟩ := readPlain_pointed number.bounded number.scale_le
  obtain ⟨digit, rest, shape, isOne⟩ :=
    exists_pointed_eq_cons number.coefficient.natAbs number.scale
  have zero := number.eq_zero_of_minusZero
  have parsed : parse number.toText = .ok number.plain := by
    rw [parse, toText, String.toList_ofList]
    split
    · rename_i below
      have signed : (if true = true then -(number.coefficient.natAbs : Int)
          else number.coefficient.natAbs) = number.coefficient := by
        rw [if_pos rfl]
        rcases below with negative | minus
        · omega
        · rw [zero minus]
          rfl
      rw [parseCharacters, read]
      exact toDecimal_eq_ok signed seen
    · rename_i above
      have signed : (if false = true then -(number.coefficient.natAbs : Int)
          else number.coefficient.natAbs) = number.coefficient := by
        rw [if_neg Bool.false_ne_true]
        omega
      rw [shape, parseCharacters_of_isDigit isOne, ← shape, read]
      exact toDecimal_eq_ok signed seen
  rw [parseEither, parsed]

/-- The sign of a zero is written, so that two texts stand for the zero read back. -/
theorem toText_plain_eq_iff (number : Decimal) :
    number.plain.toText = number.toText ↔ number.minusZero = false := by
  constructor
  · intro same
    have zero := number.eq_zero_of_minusZero
    cases minus : number.minusZero with
    | false => rfl
    | true =>
        obtain ⟨digit, rest, shape, isOne⟩ :=
          exists_pointed_eq_cons number.coefficient.natAbs number.scale
        have without : number.plain.toText.toList = digit :: rest := by
          rw [toText, String.toList_ofList, if_neg (by simp [plain, zero minus])]
          exact shape
        have signed : number.toText.toList = '-' :: digit :: rest := by
          rw [toText, String.toList_ofList, if_pos (.inr minus), shape]
        rw [same, signed] at without
        exact absurd (List.cons.inj without).1.symm
          (ne_of_isDigit isOne '-' (by decide))
  · intro unsigned
    rw [plain_eq_self unsigned]

end Clearing.Decimal
