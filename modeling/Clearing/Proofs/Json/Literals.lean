import Clearing.Json.Scalar
import Clearing.Proofs.Decimal.Scientific
import Clearing.Proofs.Decimal.Shortest
import Clearing.Proofs.Json.Following
/-!
Decimal numbers in JSON, as they are written and as they are read.  A string is read as such.
A JSON number is read exactly if it is a whole number of 64 bits, and otherwise goes through
binary floating point, which holds fifteen digits.
-/

namespace Clearing.Json

/-- How a decimal number stands in a text. -/
inductive Literal where
  | text (content : String)
  | number (token : NumberToken)
deriving DecidableEq

namespace NumberToken

/-- The power of ten that is written behind a number. -/
def power (token : NumberToken) : Int :=
  match token.exponent with
  | none => 0
  | some (true, digits) => -(Text.decimalNumber digits : Int)
  | some (false, digits) => Text.decimalNumber digits

def numeral (token : NumberToken) : Numeral where
  negative := token.negative
  digits := token.whole ++ token.fraction.getD []
  decimals := (token.fraction.getD []).length
  exponent := token.power

def IsWord (token : NumberToken) : Prop :=
  token.fraction = none ∧ token.exponent = none ∧
    Text.decimalNumber token.whole < if token.negative then 2 ^ 63 + 1 else 2 ^ 64

/-- At most fifteen digits, with a power of ten that binary floating point holds exactly. -/
structure IsShort (token : NumberToken) : Prop where
  units_lt : token.numeral.units < 10 ^ 15
  power_lt : token.power.natAbs < 2 ^ 31
  place_ge : -22 ≤ token.power - token.numeral.decimals
  place_le : token.power - token.numeral.decimals ≤ 22

end NumberToken

namespace Literal

def numeral : Literal → Numeral
  | .text content => .ofText content
  | .number token => token.numeral

def value (literal : Literal) : Rat := literal.numeral.value

def decimal? : Literal → Option Decimal
  | .text content => (Decimal.parseEither content).toOption
  | .number token => token.value.toOption.bind Number.toDecimal?

/-- A decimal number that is written so that all of its digits count. -/
def Faithful : Literal → Prop
  | .text content =>
      Decimal.Representable (Numeral.significand content).value ∧
        Decimal.Representable (Numeral.ofText content).value
  | .number token => token.IsWord ∨ token.IsShort

end Literal

/-- Read how a decimal number is written. -/
def literal : Reader Literal := do
  let first ← peek
  if first = ascii '"' then
    advance
    return .text (← stringRest)
  else if first = ascii '-' ∨ isDigitByte first then
    return .number (← numberToken)
  else
    mismatch

theorem lift_eq_ok {Value : Type} {result : Except Fault Value} {bytes rest : Bytes}
    {value : Value} (read : (liftM result : Reader Value) bytes = .ok (value, rest)) :
    result = .ok value ∧ bytes = rest := by
  cases result with
  | error fault => cases read
  | ok other =>
      cases read
      exact ⟨rfl, rfl⟩

/-- Whatever is read as a decimal number is written as one. -/
theorem follows_literal :
    Follows (fun number written => written.decimal? = some number) decimal literal := by
  unfold decimal literal
  apply Follows.after
  intro first
  apply Follows.ite
  · apply Follows.after
    intro _
    apply Follows.after
    intro text
    cases parsed : Decimal.parseEither text with
    | error fault => exact .throw .mismatched _
    | ok number =>
        apply Follows.pure
        rw [Literal.decimal?, parsed]
        rfl
  · apply Follows.ite
    · intro bytes value rest read
      obtain ⟨made, middle, numberRead, taken⟩ := (read_bind_eq_ok_iff _ _ _ _ _).mp read
      obtain ⟨token, behind, tokenRead, valued⟩ :=
        (read_bind_eq_ok_iff _ _ _ _ _).mp numberRead
      obtain ⟨tokenValue, rfl⟩ := lift_eq_ok valued
      cases decoded : made.toDecimal? with
      | none =>
          rw [decoded] at taken
          cases taken
      | some value =>
          rw [decoded] at taken
          cases taken
          refine ⟨.number token, (read_bind_eq_ok_iff _ _ _ _ _).mpr
            ⟨token, rest, tokenRead, rfl⟩, ?_⟩
          change token.value.toOption.bind Number.toDecimal? = some value
          rw [tokenValue]
          exact decoded
    · exact .mismatch _

theorem collectWhole_eq {significand : Nat} {digits : List Char}
    (room : Nat.ofDigitChars 10 digits significand < wordBound) :
    collectWhole significand digits = (Nat.ofDigitChars 10 digits significand, 0) := by
  induction digits generalizing significand with
  | nil => rfl
  | cons digit rest inductionHypothesis =>
      rw [Nat.ofDigitChars_cons] at room ⊢
      rw [collectWhole, if_pos ((Text.le_ofDigitChars rest _).trans_lt room)]
      exact inductionHypothesis room

theorem collectFraction_eq {significand used : Nat} {digits : List Char}
    (room : Nat.ofDigitChars 10 digits significand < wordBound) :
    collectFraction significand used digits =
      (Nat.ofDigitChars 10 digits significand, used + digits.length) := by
  induction digits generalizing significand used with
  | nil => rfl
  | cons digit rest inductionHypothesis =>
      rw [Nat.ofDigitChars_cons] at room ⊢
      rw [collectFraction, if_pos ((Text.le_ofDigitChars rest _).trans_lt room),
        inductionHypothesis room, List.length_cons]
      congr 1
      omega

namespace NumberToken

variable {token : NumberToken}

theorem units_numeral (token : NumberToken) :
    token.numeral.units =
      Nat.ofDigitChars 10 (token.fraction.getD []) (Text.decimalNumber token.whole) :=
  Nat.ofDigitChars_append 0

def rounded (token : NumberToken) (significand : Nat) (place : Int) : Except Fault Number :=
  match Binary64.ofScientific? significand place with
  | some size => .ok (.binary token.negative size)
  | none => .error .malformed

theorem binary_of_isShort (short : token.IsShort) :
    token.binary =
      token.rounded token.numeral.units (token.power - token.numeral.decimals) := by
  have units := short.units_lt
  rw [units_numeral] at units ⊢
  have bound : 10 ^ 15 ≤ wordBound := by decide
  have room := units.trans_le bound
  have wholeRoom := (Text.le_ofDigitChars (token.fraction.getD []) _).trans_lt room
  have size {digits : List Char} (small : Text.decimalNumber digits < 2 ^ 31) :
      exponentSize digits = Text.decimalNumber digits :=
    min_eq_left (by omega)
  have power : (match token.exponent with
      | none => ((0 : Nat) : Int) - ((0 + (token.fraction.getD []).length : Nat) : Int)
      | some (true, exponent) =>
          ((0 : Nat) : Int) - ((0 + (token.fraction.getD []).length : Nat) : Int) -
            exponentSize exponent
      | some (false, exponent) =>
          ((0 : Nat) : Int) - ((0 + (token.fraction.getD []).length : Nat) : Int) +
            exponentSize exponent) =
      token.power - token.numeral.decimals := by
    have small := short.power_lt
    change _ = token.power - ((token.fraction.getD []).length : Int)
    unfold NumberToken.power at small ⊢
    split at small
    · omega
    · rw [size (by omega)]
      omega
    · rw [size (by omega)]
      omega
  unfold NumberToken.binary
  rw [Text.decimalNumber] at wholeRoom room ⊢
  rw [collectWhole_eq wholeRoom]
  dsimp only
  rw [collectFraction_eq room]
  exact congrArg (token.rounded _) power

end NumberToken

theorem size_toCharacters_of_ofScientific? {units : Nat} {place : Int} {size : Binary64}
    (few : units < 10 ^ 15) (low : -22 ≤ place) (high : place ≤ 22)
    (found : Binary64.ofScientific? units place = some size) :
    (Numeral.ofPlain size.toCharacters).size = units * 10 ^ place := by
  rw [(Binary64.ofPlain_toCharacters size).2]
  rcases Nat.eq_zero_or_pos units with rfl | positive
  · rw [if_pos (Binary64.significand_of_ofScientific?_zero found), Nat.cast_zero, zero_mul]
  · obtain ⟨normal, reads⟩ := Binary64.readsBack_of_ofScientific?_eq_some positive
      (few.trans (by norm_num)) low high found
    rw [if_neg normal.positive.ne']
    exact Binary64.shortest_spec normal few reads

theorem fits_of_few {units : Nat} {place : Int} (few : units < 10 ^ 15) (low : -22 ≤ place) :
    Decimal.Fits (units * 10 ^ place) := by
  obtain ⟨count, rfl | rfl⟩ := place.eq_nat_or_neg
  · rw [zpow_natCast]
    have whole := Decimal.fits_natCast (units * 10 ^ count)
    push_cast at whole
    exact whole
  · refine ⟨units, count, by omega, .inr (few.trans (by norm_num)), ?_⟩
    rw [zpow_neg, zpow_natCast, div_eq_mul_inv]

theorem Number.value_of_toDecimal?_binary {units : Nat} {place : Int} {size : Binary64}
    {negative : Bool} {number : Decimal} (few : units < 10 ^ 15) (low : -22 ≤ place)
    (high : place ≤ 22) (found : Binary64.ofScientific? units place = some size)
    (read : (Number.binary negative size).toDecimal? = some number) :
    number.value = if negative then -(units * 10 ^ place : Rat) else units * 10 ^ place := by
  have written := size_toCharacters_of_ofScientific? few low high found
  have unsigned := (Binary64.ofPlain_toCharacters size).1
  have fits := fits_of_few few low
  change (Decimal.parseCharacters
    (if negative then '-' :: size.toCharacters else size.toCharacters)).toOption = _ at read
  have parsed := eq_ok_of_toOption_eq_some read
  rw [← written] at fits ⊢
  cases negative with
  | false =>
      rw [if_neg Bool.false_ne_true] at parsed ⊢
      rw [Decimal.value_of_parseCharacters_eq_ok parsed fits, Numeral.value, unsigned]
      rfl
  | true =>
      have same : (Numeral.ofPlain ('-' :: size.toCharacters)).size =
          (Numeral.ofPlain size.toCharacters).size := by
        rw [Numeral.size_ofPlain, Numeral.size_ofPlain]
        rfl
      rw [← same] at fits ⊢
      exact Decimal.value_of_parseCharacters_eq_ok parsed fits

namespace NumberToken

variable {token : NumberToken} {made : Number} {number : Decimal}

theorem value_of_isShort (short : token.IsShort) (taken : token.binary = .ok made)
    (read : made.toDecimal? = some number) : number.value = token.numeral.value := by
  rw [binary_of_isShort short, rounded] at taken
  split at taken
  · rename_i size found
    cases taken
    exact Number.value_of_toDecimal?_binary short.units_lt short.place_ge short.place_le
      found read
  · cases taken

theorem value_of_whole (whole : token.fraction = none) (plain : token.exponent = none) :
    token.numeral.value =
      if token.negative then -(Text.decimalNumber token.whole : Rat)
      else Text.decimalNumber token.whole := by
  have size : token.numeral.size = Text.decimalNumber token.whole := by
    have units : token.numeral.units = Text.decimalNumber token.whole := by
      rw [units_numeral, whole]
      rfl
    have place : token.numeral.exponent - token.numeral.decimals = 0 := by
      change token.power - ((token.fraction.getD []).length : Int) = 0
      rw [power, whole, plain]
      rfl
    rw [Numeral.size, units, place, zpow_zero, mul_one]
  rw [Numeral.value, size]
  rfl

theorem isShort_of_zero (whole : token.fraction = none) (plain : token.exponent = none)
    (zero : Text.decimalNumber token.whole = 0) : token.IsShort := by
  have noUnits : token.numeral.units = 0 := by
    rw [units_numeral, whole]
    exact zero
  have noPower : token.power = 0 := by
    rw [power, plain]
  have noDecimals : token.numeral.decimals = 0 := by
    change (token.fraction.getD []).length = 0
    rw [whole]
    rfl
  constructor
  · rw [noUnits]
    decide
  · rw [noPower]
    decide
  · rw [noPower, noDecimals]
    decide
  · rw [noPower, noDecimals]
    decide

theorem value_of_isWord (word : token.IsWord) (taken : token.value = .ok made)
    (read : made.toDecimal? = some number) : number.value = token.numeral.value := by
  obtain ⟨whole, plain, small⟩ := word
  unfold value at taken
  rw [whole, plain] at taken
  dsimp only at taken
  cases sign : token.negative with
  | true =>
      rw [sign, if_pos rfl] at small taken
      split at taken
      · cases taken
        rw [value_of_whole whole plain, sign, Decimal.value_of_ofParts? read, pow_zero, div_one]
        push_cast
        rfl
      · -- a zero below zero goes through binary floating point
        exact value_of_isShort (isShort_of_zero whole plain (by omega)) taken read
  | false =>
      rw [sign, if_neg (by decide)] at small taken
      have room : Text.decimalNumber token.whole < wordBound := small
      rw [if_pos room] at taken
      cases taken
      rw [value_of_whole whole plain, sign, Decimal.value_of_ofParts? read, pow_zero, div_one]
      push_cast
      rfl

/-- What 64 bits do not hold goes through binary floating point. -/
theorem isWord_or_value_eq_binary (token : NumberToken) :
    token.IsWord ∨ token.value = token.binary := by
  by_cases whole : token.fraction = none ∧ token.exponent = none
  · unfold value IsWord
    rw [whole.1, whole.2]
    dsimp only
    cases token.negative with
    | true =>
        rw [if_pos rfl, if_pos rfl]
        split
        · rename_i bounds
          exact .inl ⟨rfl, rfl, Nat.lt_succ_of_le bounds.2⟩
        · exact .inr rfl
    | false =>
        rw [if_neg Bool.false_ne_true, if_neg Bool.false_ne_true]
        split
        · rename_i bound
          exact .inl ⟨rfl, rfl, bound⟩
        · exact .inr rfl
  · right
    unfold value
    split
    · rename_i fraction exponent
      exact absurd ⟨fraction, exponent⟩ whole
    · rfl

end NumberToken

theorem Literal.value_of_decimal? {literal : Literal} {number : Decimal}
    (faithful : literal.Faithful) (read : literal.decimal? = some number) :
    number.value = literal.value := by
  cases literal with
  | text content =>
      exact (Decimal.value_eq_iff_of_parseEither_eq_ok (eq_ok_of_toOption_eq_some read)).mpr
        faithful
  | number token =>
      obtain ⟨made, kept, decoded⟩ := Option.bind_eq_some_iff.mp read
      have taken := eq_ok_of_toOption_eq_some kept
      rcases token.isWord_or_value_eq_binary with word | binary
      · exact NumberToken.value_of_isWord word taken decoded
      · rcases faithful with word | short
        · exact NumberToken.value_of_isWord word taken decoded
        · rw [binary] at taken
          exact NumberToken.value_of_isShort short taken decoded

end Clearing.Json
