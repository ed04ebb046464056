import Clearing.Proofs.Text.Digits
import Clearing.Time.Text
/-!
A moment is read back from its text, to the nanosecond, and no moment is read that could not
be written so.
-/

namespace Clearing.Timestamp

open Text

theorem isDigit_of_mem_padded {width number : Nat} {digit : Char}
    (member : digit ∈ padded width number) : isDigit digit = true := by
  induction width generalizing number with
  | zero => cases member
  | succ width inductionHypothesis =>
      rw [padded, List.mem_append, List.mem_singleton] at member
      rcases member with earlier | rfl
      · exact inductionHypothesis earlier
      · exact isDigit_digitChar _ (Nat.mod_lt _ (by decide))

@[simp]
theorem length_padded (width number : Nat) :
    (padded width number).length = width := by
  induction width generalizing number with
  | zero => rfl
  | succ width inductionHypothesis => simp [padded, inductionHypothesis]

theorem decimalNumber_padded (width number : Nat) :
    decimalNumber (padded width number) = number % 10 ^ width := by
  induction width generalizing number with
  | zero => simp [padded, decimalNumber, Nat.mod_one]
  | succ width inductionHypothesis =>
      have earlier := inductionHypothesis (number / 10)
      rw [decimalNumber] at earlier
      rw [padded, decimalNumber, Nat.ofDigitChars_append, earlier,
        Nat.ofDigitChars_cons_digitChar_of_lt_ten (Nat.mod_lt _ (by decide)),
        Nat.ofDigitChars_nil, Nat.pow_succ', Nat.mod_mul]
      exact Nat.add_comm _ _

theorem readNumber_append {digits : List Char}
    (numeric : ∀ digit ∈ digits, isDigit digit = true) (present : digits ≠ [])
    (limit : Nat) (within : digits.length ≤ limit) (rest : List Char)
    (ends : digits.length = limit ∨
      ∀ character ∈ rest.head?, isDigit character = false) :
    readNumber limit (digits ++ rest) = some (decimalNumber digits, rest) := by
  have taken : ((digits ++ rest).take limit).takeWhile isDigit = digits := by
    rw [List.take_append, List.take_of_length_le within,
      List.takeWhile_append_of_pos numeric]
    rcases ends with full | stopped
    · simp [full]
    · cases rest with
      | nil => simp
      | cons character rest =>
          have other := stopped character rfl
          cases limit - digits.length <;> simp [other]
  simp only [readNumber, taken, if_neg present, List.drop_left]

theorem readNumber_padded {width : Nat} (positive : width ≠ 0) (number : Nat)
    (rest : List Char) :
    readNumber width (padded width number ++ rest) =
      some (number % 10 ^ width, rest) := by
  have present : padded width number ≠ [] := by
    rw [← List.length_pos_iff, length_padded]
    exact Nat.pos_of_ne_zero positive
  rw [readNumber_append (fun _ => isDigit_of_mem_padded) present width
    (by simp) rest (.inl (by simp)), decimalNumber_padded]

theorem trimStart_append {digits : List Char}
    (numeric : ∀ digit ∈ digits, isDigit digit = true) (present : digits ≠ [])
    (rest : List Char) : trimStart (digits ++ rest) = digits ++ rest := by
  obtain ⟨digit, others, rfl⟩ := List.exists_cons_of_ne_nil present
  exact trimStart_cons_of_isDigit (numeric digit (by simp)) _

theorem trimStart_padded {width : Nat} (positive : width ≠ 0) (number : Nat)
    (rest : List Char) :
    trimStart (padded width number ++ rest) = padded width number ++ rest := by
  apply trimStart_append fun _ => isDigit_of_mem_padded
  rw [← List.length_pos_iff, length_padded]
  exact Nat.pos_of_ne_zero positive

theorem readPair_padded {number : Nat} (small : number < 100) {mark : Char}
    (solid : isBlank mark = false) (rest : List Char) :
    readPair (padded 2 number ++ mark :: rest) = some (number, mark :: rest) := by
  have trimmed : trimStart (mark :: rest) = mark :: rest := by
    simp [trimStart, solid]
  rw [readPair, trimStart_padded (by decide), readNumber_padded (by decide)]
  simp [trimmed, Nat.mod_eq_of_lt small]

theorem writeYear_eq (year : Int) :
    writeYear year =
      if 0 ≤ year ∧ year ≤ 9999 then
        paddedDigits 4 year.natAbs
      else
        (if year < 0 then '-' else '+') :: paddedDigits 4 year.natAbs :=
  rfl

theorem paddedDigits_ne_nil (number : Nat) : paddedDigits 4 number ≠ [] := by
  rw [← List.length_pos_iff, length_paddedDigits]
  exact Nat.lt_of_lt_of_le (by decide) (Nat.le_max_left _ _)

theorem readNumber_paddedDigits (number : Nat) {limit : Nat}
    (within : (paddedDigits 4 number).length ≤ limit) (rest : List Char) :
    readNumber limit (paddedDigits 4 number ++ '-' :: rest) =
      some (number, '-' :: rest) := by
  rw [readNumber_append (fun _ => isDigit_of_mem_paddedDigits)
    (paddedDigits_ne_nil number) limit within ('-' :: rest)
    (.inr (by simp; decide)), decimalNumber_paddedDigits]

theorem readYear_paddedDigits {number : Nat} (short : number ≤ 9999)
    (rest : List Char) :
    readYear (paddedDigits 4 number ++ '-' :: rest) =
      some ((number : Int), '-' :: rest) := by
  have numeric : ∀ digit ∈ paddedDigits 4 number, isDigit digit = true :=
    fun _ => isDigit_of_mem_paddedDigits
  have digits : (Nat.toDigits 10 number).length ≤ 4 :=
    (Nat.length_toDigits_le_iff (by decide) (by decide)).mpr (by omega)
  have length : (paddedDigits 4 number).length ≤ 4 := by
    rw [length_paddedDigits]
    omega
  have four := readNumber_paddedDigits number length rest
  have trimmed :=
    trimStart_append numeric (paddedDigits_ne_nil number) ('-' :: rest)
  obtain ⟨digit, others, shape⟩ :=
    List.exists_cons_of_ne_nil (paddedDigits_ne_nil number)
  have isOne := numeric digit (by simp [shape])
  have notMinus := ne_of_isDigit isOne '-' (by decide)
  have notPlus := ne_of_isDigit isOne '+' (by decide)
  rw [readYear, trimmed]
  rw [shape] at four ⊢
  simp only [List.cons_append] at four ⊢
  split
  · rename_i negative
    exact absurd (List.cons.inj negative).1 notMinus
  · rename_i positive
    exact absurd (List.cons.inj positive).1 notPlus
  · rw [four]
    rfl

theorem readYear_minus (number : Nat) (rest : List Char) :
    readYear ('-' :: (paddedDigits 4 number ++ '-' :: rest)) =
      some (-(number : Int), '-' :: rest) := by
  rw [readYear]
  change ((readNumber _ _).bind fun read => some (-(read.1 : Int), read.2)) = _
  rw [readNumber_paddedDigits number (by simp) rest]
  rfl

theorem readYear_plus (number : Nat) (rest : List Char) :
    readYear ('+' :: (paddedDigits 4 number ++ '-' :: rest)) =
      some ((number : Int), '-' :: rest) := by
  rw [readYear]
  change ((readNumber _ _).bind fun read => some ((read.1 : Int), read.2)) = _
  rw [readNumber_paddedDigits number (by simp) rest]
  rfl

theorem readYear_writeYear (year : Int) (rest : List Char) :
    readYear (writeYear year ++ '-' :: rest) = some (year, '-' :: rest) := by
  rw [writeYear_eq]
  by_cases plain : 0 ≤ year ∧ year ≤ 9999
  · have same : (year.natAbs : Int) = year := by omega
    rw [if_pos plain, readYear_paddedDigits (by omega), same]
  · rw [if_neg plain]
    by_cases negative : year < 0
    · have same : -(year.natAbs : Int) = year := by omega
      rw [if_pos negative, List.cons_append, readYear_minus, same]
    · have same : (year.natAbs : Int) = year := by omega
      rw [if_neg negative, List.cons_append, readYear_plus, same]

theorem daysInMonth_le (year : Int) (month : Nat) : daysInMonth year month ≤ 31 := by
  simp only [daysInMonth]
  repeat' split
  all_goals decide

theorem ofNumbers?_date (date : Date) :
    Date.ofNumbers? date.year date.month date.day = some date :=
  dif_pos ⟨date.month_pos, date.month_le, date.day_pos, date.day_le⟩

theorem readDate_written (date : Date) (inRange : Date.YearInRange date.year)
    (rest : List Char) :
    readDate (writeYear date.year ++ '-' :: (padded 2 date.month ++
      '-' :: (padded 2 date.day ++ 'T' :: rest))) = some (date, 'T' :: rest) := by
  have days := daysInMonth_le date.year date.month
  have month := date.month_le
  have day := date.day_le
  have solid (behind : List Char) : trimStart ('-' :: behind) = '-' :: behind := rfl
  rw [readDate, readYear_writeYear]
  simp only [Option.bind_eq_bind, Option.bind_some, solid, readMark, if_true]
  rw [readPair_padded (by omega) (by decide)]
  simp only [Option.bind_some, if_true]
  rw [trimStart_padded (by decide), readNumber_padded (by decide),
    Nat.mod_eq_of_lt (by omega)]
  simp only [Option.bind_some, if_pos inRange, ofNumbers?_date]
  rfl

theorem readFraction_padded {width : Nat} (positive : width ≠ 0) (within : width ≤ 9)
    {number : Nat} (small : number < 10 ^ width) :
    readFraction ('.' :: (padded width number ++ ['Z'])) =
      some (number * 10 ^ (9 - width), ['Z']) := by
  have numeric : ∀ digit ∈ padded width number, isDigit digit = true :=
    fun _ => isDigit_of_mem_padded
  have present : padded width number ≠ [] := by
    rw [← List.length_pos_iff, length_padded]
    exact Nat.pos_of_ne_zero positive
  have taken : ((padded width number ++ ['Z']).take 9).takeWhile isDigit =
      padded width number := by
    rw [List.take_append, List.take_of_length_le (by simpa using within),
      List.takeWhile_append_of_pos numeric]
    cases 9 - (padded width number).length <;> simp [isDigit]
  have read := readNumber_append numeric present 9 (by simpa using within) ['Z']
    (.inr (by simp; decide))
  rw [readFraction, taken, read, decimalNumber_padded, Nat.mod_eq_of_lt small,
    length_padded]
  rfl

theorem readFraction_writeFraction {nanosecond : Nat} (small : nanosecond < 10 ^ 9) :
    readFraction (writeFraction nanosecond ++ ['Z']) = some (nanosecond, ['Z']) := by
  simp only [writeFraction]
  split
  · rename_i none
    rw [none]
    rfl
  · split
    · rename_i thousands
      rw [List.cons_append,
        readFraction_padded (by decide) (by decide) (by omega)]
      simp only [Option.some.injEq, Prod.mk.injEq, and_true]
      omega
    · split
      · rename_i thousands
        rw [List.cons_append,
          readFraction_padded (by decide) (by decide) (by omega)]
        simp only [Option.some.injEq, Prod.mk.injEq, and_true]
        omega
      · rw [List.cons_append,
          readFraction_padded (by decide) (by decide) small]
        simp

theorem ofNumbers?_moment (moment : Timestamp) :
    ofNumbers? moment.date moment.hour moment.minute moment.second
      moment.nanosecond = some moment :=
  dif_pos ⟨moment.hour_lt, moment.minute_lt, moment.second_le,
    moment.nanosecond_lt⟩

theorem fromOffset_zero (moment : Timestamp) : moment.fromOffset 0 = moment := by
  have hour := moment.hour_lt
  have minute := moment.minute_lt
  rw [fromOffset]
  simp only [Int.sub_zero]
  rw [if_neg (by omega), if_neg (by omega), atMinute]
  obtain ⟨date, hours, minutes, second, nanosecond, _, _, _, _⟩ := moment
  simp only [mk.injEq, true_and, and_true]
  omega

theorem parse_toText (moment : Timestamp)
    (inRange : Date.YearInRange moment.date.year) :
    parse moment.toText = some moment := by
  have hour := moment.hour_lt
  have minute := moment.minute_lt
  have second := moment.second_le
  rw [parse, toText, String.toList_ofList, toCharacters]
  simp only [List.append_assoc, List.cons_append]
  rw [parseCharacters, readDate_written _ inRange]
  simp only [Option.bind_eq_bind, Option.bind_some]
  rw [readPair_padded (by omega) (by decide)]
  simp only [Option.bind_some, readMark, if_true]
  rw [readPair_padded (by omega) (by decide)]
  simp only [Option.bind_some, if_true]
  rw [trimStart_padded (by decide), readNumber_padded (by decide),
    Nat.mod_eq_of_lt (by omega)]
  simp only [Option.bind_some]
  rw [readFraction_writeFraction moment.nanosecond_lt]
  simp only [Option.bind_some]
  have offset : readOffset (trimStart ['Z']) = some (0, []) := rfl
  rw [offset]
  simp only [Option.bind_some, ofNumbers?_moment, fromOffset_zero]
  rw [if_pos ⟨rfl, by decide, inRange⟩]
  rfl

theorem yearInRange_of_checked {shown moment : Timestamp} {ends near : Prop}
    [Decidable (ends ∧ near ∧ Date.YearInRange shown.date.year)]
    (checked : (if ends ∧ near ∧ Date.YearInRange shown.date.year then some shown else none) =
      some moment) : Date.YearInRange moment.date.year := by
  split at checked
  · rename_i accepted
    cases checked
    exact accepted.2.2
  · cases checked

theorem yearInRange_of_parse {text : String} {moment : Timestamp}
    (parsed : parse text = some moment) : Date.YearInRange moment.date.year := by
  rw [parse, parseCharacters] at parsed
  obtain ⟨⟨date, rest⟩, _, parsed⟩ := Option.bind_eq_some_iff.mp parsed
  dsimp only at parsed
  -- the three marks between a date and a time are read on alike
  split at parsed
  all_goals
    simp only [Option.bind_eq_bind, Option.bind_eq_some_iff] at parsed
    obtain ⟨_, marked, _, _, _, _, _, _, _, _, _, _, _, _, _, _, _, _, checked⟩ := parsed
  · exact yearInRange_of_checked checked
  · exact yearInRange_of_checked checked
  · exact yearInRange_of_checked checked
  · cases marked

end Clearing.Timestamp
