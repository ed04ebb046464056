import Clearing.Proofs.Decimal.Numeral
import Clearing.Proofs.Except
/-!
When a decimal number is read without rounding.  In plain notation that is so exactly
if some decimal number has the value that is written: a digit for which there is no
room is then a zero, and so are all digits behind it.
-/

namespace Clearing.Text

theorem decimalNumber_lt_of_isDigit {digits : List Char}
    (numeric : ∀ digit ∈ digits, isDigit digit = true) :
    decimalNumber digits < 10 ^ digits.length := by
  induction digits with
  | nil => decide
  | cons digit rest inductionHypothesis =>
      have bound := toNat_of_isDigit (numeric digit (by simp))
      have behind := inductionHypothesis fun other member =>
        numeric other (List.mem_cons_of_mem _ member)
      have first : digit.toNat - '0'.toNat ≤ 9 := by
        change digit.toNat - 48 ≤ 9
        omega
      rw [decimalNumber, Nat.ofDigitChars_cons, Nat.ofDigitChars_eq_ofDigitChars_zero,
        List.length_cons, pow_succ]
      change 10 ^ rest.length * (10 * 0 + _) + decimalNumber rest < _
      nlinarith [Nat.one_le_pow rest.length 10 (by decide)]

end Clearing.Text

namespace Clearing.Decimal

open Text

/-- What a reading has collected so far. -/
def Reading.amount (reading : Reading) : Rat :=
  reading.coefficient / 10 ^ reading.scale

/-- The digits of a text that stand behind the point, given what was read before it. -/
def Reading.behind (reading : Reading) (rest : List Char) : List Char :=
  if reading.pointSeen then
    rest.filter isDigit
  else
    (rest.dropWhile (· ≠ '.')).filter isDigit

/-- What a reading and the text behind it denote together. -/
def Reading.meant (reading : Reading) (rest : List Char) : Rat :=
  (Nat.ofDigitChars 10 (rest.filter isDigit) reading.coefficient : Nat) /
    10 ^ (reading.scale + (reading.behind rest).length)

/-- There are no decimals before the point. -/
def Reading.Sensible (reading : Reading) : Prop :=
  reading.pointSeen = false → reading.scale = 0

/--
The digits that a full reading leaves behind are zeros.  A reading is full if its scale is at
the bound, or if the next digit would take its coefficient above the bound.
-/
theorem eq_zero_of_fits {coefficient scale tail count : Nat} (short : tail < 10 ^ count)
    (full : 28 ≤ scale ∨ 2 ^ 96 * 10 ^ count ≤ 10 * (coefficient * 10 ^ count + tail))
    (fits : Fits ((coefficient * 10 ^ count + tail : Nat) / 10 ^ (scale + count))) :
    tail = 0 := by
  obtain ⟨units, decimals, few, bounded, equation⟩ := fits
  rw [div_eq_div_iff (by positivity) (by positivity)] at equation
  have whole : (coefficient * 10 ^ count + tail) * 10 ^ decimals =
      units * 10 ^ (scale + count) := by
    exact_mod_cast equation
  by_cases order : decimals ≤ scale
  · have split : 10 ^ (scale + count) = 10 ^ (scale - decimals) * 10 ^ count * 10 ^ decimals := by
      rw [← pow_add, ← pow_add]
      congr 1
      omega
    rw [split, ← mul_assoc, ← mul_assoc] at whole
    have multiple := Nat.eq_of_mul_eq_mul_right (by positivity) whole
    have divides : 10 ^ count ∣ tail := by
      rw [← Nat.dvd_add_right (Dvd.intro_left coefficient rfl), multiple]
      exact Dvd.intro_left _ rfl
    exact Nat.eq_zero_of_dvd_of_lt divides short
  · have split : 10 ^ decimals = 10 * 10 ^ (decimals - scale - 1) * 10 ^ scale := by
      rw [← pow_succ', ← pow_add]
      congr 1
      omega
    rw [split, pow_add, mul_comm (10 ^ scale) (10 ^ count), ← mul_assoc, ← mul_assoc,
      ← mul_assoc] at whole
    have shorter := Nat.eq_of_mul_eq_mul_right (by positivity) whole
    have room : units < 2 ^ 96 := by
      rcases bounded with none | room
      · omega
      · exact room
    have large : 2 ^ 96 * 10 ^ count ≤ 10 * (coefficient * 10 ^ count + tail) := by
      rcases full with finest | large
      · omega
      · exact large
    have least : 1 ≤ 10 ^ (decimals - scale - 1) := Nat.one_le_pow _ _ (by decide)
    have above : 2 ^ 96 * 10 ^ count ≤ units * 10 ^ count := by
      calc 2 ^ 96 * 10 ^ count ≤ 10 * (coefficient * 10 ^ count + tail) * 1 := by
            rw [mul_one]
            exact large
        _ ≤ 10 * (coefficient * 10 ^ count + tail) * 10 ^ (decimals - scale - 1) :=
            Nat.mul_le_mul_left _ least
        _ = units * 10 ^ count := by
            rw [← shorter]
            ring
    exact absurd (Nat.le_of_mul_le_mul_right above (by positivity)) (not_le.mpr room)

theorem Reading.meant_of_pointSeen {reading : Reading} (seen : reading.pointSeen = true)
    (rest : List Char) :
    reading.meant rest =
      (reading.coefficient * 10 ^ (rest.filter isDigit).length +
          decimalNumber (rest.filter isDigit) : Nat) /
        10 ^ (reading.scale + (rest.filter isDigit).length) := by
  rw [meant, behind, if_pos seen, Nat.ofDigitChars_eq_ofDigitChars_zero, mul_comm]
  rfl

/-- A full reading behind the point is all that is meant, if that fits. -/
theorem Reading.amount_eq_meant {reading : Reading} (seen : reading.pointSeen = true)
    {rest : List Char}
    (full : 28 ≤ reading.scale ∨
      2 ^ 96 * 10 ^ (rest.filter isDigit).length ≤
        10 * (reading.coefficient * 10 ^ (rest.filter isDigit).length +
          decimalNumber (rest.filter isDigit)))
    (fits : Fits (reading.meant rest)) :
    decimalNumber (rest.filter isDigit) = 0 ∧ reading.amount = reading.meant rest := by
  rw [meant_of_pointSeen seen] at fits ⊢
  have zeros := eq_zero_of_fits
    (decimalNumber_lt_of_isDigit fun _ member => (List.mem_filter.mp member).2) full fits
  refine ⟨zeros, ?_⟩
  rw [zeros, add_zero, pow_add, amount]
  push_cast
  rw [mul_div_mul_right _ _ (by positivity)]

theorem Reading.sensible_start : Reading.start.Sensible := by
  intro _
  rfl

theorem toNat_sub_le_decimalNumber (digit : Char) (rest : List Char) :
    digit.toNat - '0'.toNat ≤ decimalNumber (digit :: rest) ∧
      (digit.toNat - '0'.toNat) * 10 ^ rest.length ≤ decimalNumber (digit :: rest) := by
  rw [decimalNumber, Nat.ofDigitChars_cons, Nat.mul_zero, Nat.zero_add]
  refine ⟨le_ofDigitChars _ _, ?_⟩
  rw [Nat.ofDigitChars_eq_ofDigitChars_zero, mul_comm]
  exact Nat.le_add_right _ _

/-- Rounding drops zeros only where what is meant fits. -/
theorem Reading.amount_of_round_eq_ok {reading rounded : Reading}
    (seen : reading.pointSeen = true) {digit : Char} (isOne : isDigit digit = true)
    (full : ¬ (reading.scale < 28 ∧
      10 * reading.coefficient + (digit.toNat - '0'.toNat) < 2 ^ 96))
    {rest : List Char} (fits : Fits (reading.meant (digit :: rest)))
    (round : reading.round digit = .ok rounded) :
    rounded.amount = reading.meant (digit :: rest) := by
  have shape : (digit :: rest).filter isDigit = digit :: rest.filter isDigit :=
    List.filter_cons_of_pos isOne
  obtain ⟨first, behind⟩ := toNat_sub_le_decimalNumber digit (rest.filter isDigit)
  have noRoom : 28 ≤ reading.scale ∨
      2 ^ 96 * 10 ^ ((digit :: rest).filter isDigit).length ≤
        10 * (reading.coefficient * 10 ^ ((digit :: rest).filter isDigit).length +
          decimalNumber ((digit :: rest).filter isDigit)) := by
    rw [shape, List.length_cons, pow_succ 10]
    by_cases finest : 28 ≤ reading.scale
    · exact .inl finest
    · right
      have above : 2 ^ 96 ≤ 10 * reading.coefficient + (digit.toNat - '0'.toNat) := by
        by_contra below
        exact full ⟨by omega, by omega⟩
      generalize 10 ^ (rest.filter isDigit).length = power at behind ⊢
      calc 2 ^ 96 * (power * 10)
          ≤ (10 * reading.coefficient + (digit.toNat - '0'.toNat)) * (power * 10) :=
            Nat.mul_le_mul_right _ above
        _ = 10 * (reading.coefficient * (power * 10) + (digit.toNat - '0'.toNat) * power) := by
            ring
        _ ≤ _ := Nat.mul_le_mul_left 10 (Nat.add_le_add_left behind _)
  obtain ⟨zeros, exact'⟩ := amount_eq_meant seen noRoom fits
  rw [shape] at zeros
  have zero : digit < '5' := by
    have range := toNat_of_isDigit isOne
    change digit.toNat - 48 ≤ _ at first
    change digit.toNat < 53
    omega
  rw [Reading.round, if_pos zero] at round
  cases round
  exact exact'

theorem Reading.meant_cons {reading : Reading} (next : Reading) {character : Char}
    {rest : List Char}
    (digits : Nat.ofDigitChars 10 (rest.filter isDigit) next.coefficient =
      Nat.ofDigitChars 10 ((character :: rest).filter isDigit) reading.coefficient)
    (scale : next.scale + (next.behind rest).length =
      reading.scale + (reading.behind (character :: rest)).length) :
    next.meant rest = reading.meant (character :: rest) := by
  rw [meant, meant, digits, scale]

theorem exists_of_map_checkRest_eq_ok {rest : List Char} {value result : Reading}
    (mapped : (checkRest rest).map (fun _ => value) = .ok result) :
    checkRest rest = .ok () ∧ value = result := by
  obtain ⟨_, checked, same⟩ := exists_of_map_eq_ok mapped
  exact ⟨checked, same⟩

/-- What the next character of a text does to a reading that comes to a result. -/
inductive ReadStep (reading result : Reading) (rest : List Char) : Char → Prop where
  | decimal (digit : Char) :
      isDigit digit = true →
      reading.pointSeen = true →
      readPlain
        { reading with
          coefficient := 10 * reading.coefficient + (digit.toNat - '0'.toNat)
          scale := reading.scale + 1
          digitSeen := true }
        rest = .ok result →
      ReadStep reading result rest digit
  | rounded (digit : Char) :
      isDigit digit = true →
      reading.pointSeen = true →
      ¬ (reading.scale < 28 ∧
        10 * reading.coefficient + (digit.toNat - '0'.toNat) < 2 ^ 96) →
      reading.round digit = .ok result →
      checkRest rest = .ok () →
      ReadStep reading result rest digit
  | whole (digit : Char) :
      isDigit digit = true →
      reading.pointSeen = false →
      readPlain
        { reading with
          coefficient := 10 * reading.coefficient + (digit.toNat - '0'.toNat)
          digitSeen := true }
        rest = .ok result →
      ReadStep reading result rest digit
  | point :
      reading.pointSeen = false →
      readPlain { reading with pointSeen := true } rest = .ok result →
      ReadStep reading result rest '.'
  | ended :
      reading.endsAtSeparator = true →
      checkRest rest = .ok () →
      reading = result →
      ReadStep reading result rest '_'
  | separator :
      readPlain reading rest = .ok result →
      ReadStep reading result rest '_'

theorem readStep_of_isDigit {reading result : Reading} {digit : Char} {rest : List Char}
    (isOne : isDigit digit = true) (read : readPlain reading (digit :: rest) = .ok result) :
    ReadStep reading result rest digit := by
  rw [readPlain, if_pos isOne] at read
  dsimp only at read
  split at read
  · rename_i seen
    split at read
    · exact .decimal digit isOne seen read
    · rename_i full
      obtain ⟨rounded, round, kept⟩ := (bind_eq_ok_iff _ _ _).mp read
      obtain ⟨checked, same⟩ := exists_of_map_checkRest_eq_ok kept
      rw [same] at round
      exact .rounded digit isOne seen full round checked
  · rename_i unseen
    split at read
    · exact .whole digit isOne (by simpa using unseen) read
    · cases read

theorem readStep_of_readPlain_eq_ok {reading result : Reading} {character : Char}
    {rest : List Char} (read : readPlain reading (character :: rest) = .ok result) :
    ReadStep reading result rest character := by
  by_cases isOne : isDigit character = true
  · exact readStep_of_isDigit isOne read
  · rw [readPlain, if_neg isOne] at read
    split at read
    · rename_i point
      subst point
      split at read
      · cases read
      · rename_i unseen
        exact .point (by simpa using unseen) read
    · split at read
      · rename_i separator
        subst separator
        split at read
        · rename_i ends
          obtain ⟨checked, same⟩ := exists_of_map_checkRest_eq_ok read
          exact .ended ends checked same
        · split at read
          · exact .separator read
          · cases read
      · cases read

theorem Reading.meant_decimal {reading : Reading} (seen : reading.pointSeen = true)
    {digit : Char} (isOne : isDigit digit = true) (rest : List Char) :
    { reading with
      coefficient := 10 * reading.coefficient + (digit.toNat - '0'.toNat)
      scale := reading.scale + 1
      digitSeen := true }.meant rest = reading.meant (digit :: rest) := by
  apply meant_cons
  · rw [List.filter_cons_of_pos isOne, Nat.ofDigitChars_cons]
  · simp only [behind, seen, if_true, List.filter_cons_of_pos isOne, List.length_cons]
    omega

theorem Reading.meant_whole {reading : Reading} (unseen : reading.pointSeen = false)
    {digit : Char} (isOne : isDigit digit = true) (rest : List Char) :
    { reading with
      coefficient := 10 * reading.coefficient + (digit.toNat - '0'.toNat)
      digitSeen := true }.meant rest = reading.meant (digit :: rest) := by
  have different := ne_of_isDigit isOne '.' (by decide)
  apply meant_cons
  · rw [List.filter_cons_of_pos isOne, Nat.ofDigitChars_cons]
  · simp [behind, unseen, different]

theorem Reading.meant_point {reading : Reading} (unseen : reading.pointSeen = false)
    (rest : List Char) :
    { reading with pointSeen := true }.meant rest = reading.meant ('.' :: rest) := by
  have digits : ('.' :: rest).filter isDigit = rest.filter isDigit :=
    List.filter_cons_of_neg (by decide)
  apply meant_cons
  · rw [digits]
  · simp [behind, unseen, digits]

theorem Reading.meant_separator (reading : Reading) (rest : List Char) :
    reading.meant rest = reading.meant ('_' :: rest) := by
  have digits : ('_' :: rest).filter isDigit = rest.filter isDigit :=
    List.filter_cons_of_neg (by decide)
  apply meant_cons reading
  · rw [digits]
  · cases seen : reading.pointSeen <;> simp [behind, seen, digits]

/-- What is read in plain notation is what is meant, if that fits. -/
theorem amount_of_readPlain_eq_ok {reading result : Reading} {rest : List Char}
    (sensible : reading.Sensible) (read : readPlain reading rest = .ok result)
    (fits : Fits (reading.meant rest)) : result.amount = reading.meant rest := by
  induction rest generalizing reading with
  | nil =>
      cases read
      simp [Reading.amount, Reading.meant, Reading.behind]
  | cons character rest inductionHypothesis =>
      cases readStep_of_readPlain_eq_ok read with
      | decimal _ isOne seen behind =>
          rw [← Reading.meant_decimal seen isOne] at fits ⊢
          apply inductionHypothesis _ behind fits
          intro unseen
          rw [seen] at unseen
          cases unseen
      | rounded _ isOne seen full round _ =>
          exact Reading.amount_of_round_eq_ok seen isOne full fits round
      | whole _ isOne unseen behind =>
          rw [← Reading.meant_whole unseen isOne] at fits ⊢
          exact inductionHypothesis sensible behind fits
      | point unseen behind =>
          rw [← Reading.meant_point unseen] at fits ⊢
          apply inductionHypothesis _ behind fits
          intro unseen
          cases unseen
      | ended ends _ same =>
          rw [← same]
          rw [← Reading.meant_separator] at fits ⊢
          rw [Reading.endsAtSeparator, Bool.and_eq_true, beq_iff_eq] at ends
          cases seen : reading.pointSeen with
          | true => exact (Reading.amount_eq_meant seen (.inl (Nat.le_of_eq ends.1.symm)) fits).2
          | false =>
              have none := sensible seen
              omega
      | separator behind =>
          rw [← Reading.meant_separator] at fits ⊢
          exact inductionHypothesis sensible behind fits

theorem Reading.meant_start (characters : List Char) :
    Reading.start.meant characters = (Numeral.ofPlain characters).size := by
  rw [Numeral.size_ofPlain, meant, show Reading.start.scale = 0 from rfl, Nat.zero_add]
  rfl

theorem Reading.value_of_toDecimal_eq_ok {reading : Reading} {negative : Bool}
    {number : Decimal} (made : reading.toDecimal negative = .ok number) :
    number.value = if negative then -reading.amount else reading.amount := by
  unfold toDecimal at made
  split at made
  · dsimp only at made
    split at made
    · rename_i other parts
      cases made
      rw [value_of_ofParts? parts, amount]
      split
      · push_cast
        exact neg_div _ _
      · push_cast
        rfl
    · cases made
  · cases made

/-- The sign and the text behind it, which is read from the start. -/
theorem exists_of_parseCharacters_eq_ok {characters : List Char} {number : Decimal}
    (parsed : parseCharacters characters = .ok number) :
    ∃ rest result, readPlain .start rest = .ok result ∧
      result.toDecimal (Numeral.ofPlain characters).negative = .ok number ∧
      (Numeral.ofPlain rest).size = (Numeral.ofPlain characters).size ∧
      ∀ character ∈ characters, character ∈ rest ∨ character = '-' ∨ character = '+' := by
  unfold parseCharacters at parsed
  split at parsed
  · cases parsed
  · rename_i rest
    obtain ⟨result, reading, made⟩ := (bind_eq_ok_iff _ _ _).mp parsed
    refine ⟨rest, result, reading, made, ?_, ?_⟩
    · rw [Numeral.size_ofPlain, Numeral.size_ofPlain]
      rfl
    · intro character member
      rcases List.mem_cons.mp member with rfl | member
      · exact .inr (.inl rfl)
      · exact .inl member
  · rename_i rest
    obtain ⟨result, reading, made⟩ := (bind_eq_ok_iff _ _ _).mp parsed
    refine ⟨rest, result, reading, made, ?_, ?_⟩
    · rw [Numeral.size_ofPlain, Numeral.size_ofPlain]
      rfl
    · intro character member
      rcases List.mem_cons.mp member with rfl | member
      · exact .inr (.inr rfl)
      · exact .inl member
  · rename_i notMinus notPlus
    obtain ⟨result, reading, made⟩ := (bind_eq_ok_iff _ _ _).mp parsed
    refine ⟨characters, result, reading, ?_, rfl, fun character member => .inl member⟩
    have unsigned : (Numeral.ofPlain characters).negative = false := by
      rw [Numeral.ofPlain, decide_eq_false_iff_not]
      intro minus
      obtain ⟨rest, shape⟩ := List.head?_eq_some_iff.mp minus
      exact notMinus rest shape
    rw [unsigned]
    exact made

theorem value_of_parseCharacters_eq_ok {characters : List Char} {number : Decimal}
    (parsed : parseCharacters characters = .ok number)
    (fits : Fits (Numeral.ofPlain characters).size) :
    number.value = (Numeral.ofPlain characters).value := by
  obtain ⟨rest, result, reading, made, same, _⟩ := exists_of_parseCharacters_eq_ok parsed
  rw [← same, ← Reading.meant_start] at fits
  have amount := amount_of_readPlain_eq_ok Reading.sensible_start reading fits
  rw [Reading.meant_start, same] at amount
  rw [Reading.value_of_toDecimal_eq_ok made, amount]
  rfl

theorem value_eq_iff_of_parseCharacters_eq_ok {characters : List Char} {number : Decimal}
    (parsed : parseCharacters characters = .ok number) :
    number.value = (Numeral.ofPlain characters).value ↔
      Representable (Numeral.ofPlain characters).value := by
  constructor
  · intro same
    exact ⟨number, same⟩
  · intro representable
    rw [representable_value_iff] at representable
    exact value_of_parseCharacters_eq_ok parsed
      (representable.fits (Numeral.size_nonneg _))

end Clearing.Decimal
