import Clearing.Proofs.Decimal.Exactness
import Clearing.Proofs.Decimal.Text
import Mathlib.Algebra.Order.Floor.Semifield
import Mathlib.Data.Nat.Find
import Mathlib.Data.Rat.Floor
/-!
What is kept of a number that is read.  A number is read with as many decimals as the bounds of
the scale and of the coefficient leave room for, and is rounded half up behind them.  Nothing is
lost of a number that some decimal number has for its value.
-/

namespace Clearing.Decimal

open Text

/-- The most decimals of a number for which the scale and the coefficient have room. -/
def room (value : Rat) : Nat :=
  Nat.findGreatest (fun decimals => value * 10 ^ decimals < 2 ^ 96) 28

/-- A number rounded half up behind the decimals for which there is room. -/
def kept (value : Rat) : Rat :=
  ⌊value * 10 ^ room value + 1 / 2⌋₊ / 10 ^ room value

section Kept

variable {value : Rat} {decimals : Nat}

theorem le_room (few : decimals ≤ 28) (small : value * 10 ^ decimals < 2 ^ 96) :
    decimals ≤ room value :=
  Nat.le_findGreatest few small

theorem room_eq (nonneg : 0 ≤ value) (few : decimals ≤ 28)
    (small : value * 10 ^ decimals < 2 ^ 96)
    (full : decimals = 28 ∨ 2 ^ 96 ≤ value * 10 ^ (decimals + 1)) : room value = decimals := by
  refine Nat.findGreatest_eq_iff.mpr ⟨few, fun _ => small, fun more above bounded => ?_⟩
  rcases full with finest | large
  · omega
  · refine not_lt.mpr (large.trans ?_)
    gcongr
    · norm_num
    · exact above

theorem kept_eq_self {units : Nat} (enough : decimals ≤ room value)
    (whole : value * 10 ^ decimals = units) : kept value = value := by
  obtain ⟨more, split⟩ := Nat.exists_eq_add_of_le enough
  have all : value * 10 ^ room value = (units * 10 ^ more : Nat) := by
    rw [split, pow_add, ← mul_assoc, whole]
    push_cast
    rfl
  have floor : ⌊value * 10 ^ room value + 1 / 2⌋₊ = units * 10 ^ more := by
    rw [all, Nat.floor_eq_iff (by positivity)]
    constructor <;> norm_num
  rw [kept, floor, ← all, mul_div_cancel_right₀ _ (by positivity)]

theorem kept_eq_self_of_representable (nonneg : 0 ≤ value) (representable : Representable value) :
    kept value = value := by
  obtain ⟨number, rfl⟩ := representable
  have units : number.value * 10 ^ number.scale = number.coefficient.natAbs := by
    rw [value_eq_div, div_mul_cancel₀ _ (by positivity),
      ← natAbs_coefficient_of_nonneg nonneg]
    rfl
  refine kept_eq_self (le_room number.scale_le ?_) units
  rw [units]
  exact_mod_cast number.bounded

theorem le_kept (large : 2 ^ 96 ≤ value) : 2 ^ 96 ≤ kept value := by
  have none : room value = 0 := by
    refine Nat.findGreatest_eq_zero_iff.mpr fun decimals _ _ => not_lt.mpr (large.trans ?_)
    exact le_mul_of_one_le_right (by linarith) (one_le_pow₀ (by norm_num))
  have floor : 2 ^ 96 ≤ ⌊value + 1 / 2⌋₊ := by
    refine Nat.le_floor ?_
    push_cast
    linarith
  rw [kept, none, pow_zero, mul_one, div_one]
  exact_mod_cast floor

end Kept

/-- Behind the point, what has been collected is what is meant up to the next digit. -/
theorem Reading.meant_bounds {reading : Reading} (seen : reading.pointSeen = true)
    {digits : List Char} (numeric : ∀ digit ∈ digits, isDigit digit = true) :
    reading.coefficient ≤ reading.meant digits * 10 ^ reading.scale ∧
      reading.meant digits * 10 ^ reading.scale < reading.coefficient + 1 := by
  have short : (decimalNumber digits : Rat) < 10 ^ digits.length := by
    exact_mod_cast decimalNumber_lt_of_isDigit numeric
  have split : reading.meant digits * 10 ^ reading.scale =
      reading.coefficient + decimalNumber digits / 10 ^ digits.length := by
    rw [meant_of_pointSeen seen, List.filter_eq_self.mpr numeric, pow_add]
    push_cast
    field_simp
  rw [split]
  constructor
  · have behind : (0 : Rat) ≤ decimalNumber digits / 10 ^ digits.length := by positivity
    linarith
  · have behind : (decimalNumber digits : Rat) / 10 ^ digits.length < 1 :=
      (div_lt_one (by positivity)).mpr short
    linarith

theorem Reading.meant_nonneg (reading : Reading) (rest : List Char) : 0 ≤ reading.meant rest := by
  rw [meant]
  positivity

/-- The next digit behind the point is the next digit of what is meant. -/
theorem Reading.floor_meant_succ {reading : Reading} (seen : reading.pointSeen = true)
    {digit : Char} (isOne : isDigit digit = true) {rest : List Char}
    (numeric : ∀ other ∈ rest, isDigit other = true) :
    ⌊reading.meant (digit :: rest) * 10 ^ (reading.scale + 1)⌋₊ =
      10 * reading.coefficient + (digit.toNat - '0'.toNat) := by
  have same := Reading.meant_decimal seen isOne rest
  obtain ⟨after, shape⟩ : ∃ after : Reading, after =
      { reading with
        coefficient := 10 * reading.coefficient + (digit.toNat - '0'.toNat)
        scale := reading.scale + 1
        digitSeen := true } := ⟨_, rfl⟩
  have coefficient : after.coefficient = 10 * reading.coefficient + (digit.toNat - '0'.toNat) := by
    rw [shape]
  have scale : after.scale = reading.scale + 1 := by
    rw [shape]
  have afterSeen : after.pointSeen = true := by
    rw [shape]
    exact seen
  have nonneg := after.meant_nonneg rest
  rw [← shape] at same
  rw [← same, ← coefficient, ← scale, Nat.floor_eq_iff (by positivity)]
  exact after.meant_bounds afterSeen numeric

/-- What is kept of a number behind whose digits there is no room for the next one. -/
theorem Reading.kept_meant_of_full {reading : Reading} (seen : reading.pointSeen = true)
    (small : reading.coefficient < 2 ^ 96) (few : reading.scale ≤ 28)
    {digit : Char} {rest : List Char} (isOne : isDigit digit = true)
    (numeric : ∀ other ∈ rest, isDigit other = true)
    (full : ¬ (reading.scale < 28 ∧
      10 * reading.coefficient + (digit.toNat - '0'.toNat) < 2 ^ 96)) :
    kept (reading.meant (digit :: rest)) =
      ((10 * reading.coefficient + (digit.toNat - '0'.toNat) + 5) / 10 : Nat) /
        10 ^ reading.scale := by
  obtain ⟨_, below⟩ := reading.meant_bounds seen (List.forall_mem_cons.mpr ⟨isOne, numeric⟩)
  have nonneg := reading.meant_nonneg (digit :: rest)
  have next := reading.floor_meant_succ seen isOne numeric
  generalize reading.meant (digit :: rest) = value at below nonneg next ⊢
  have here : room value = reading.scale := by
    refine room_eq nonneg few (below.trans_le ?_) ?_
    · exact_mod_cast small
    · by_cases finest : reading.scale = 28
      · exact .inl finest
      · right
        have large : 2 ^ 96 ≤ ⌊value * 10 ^ (reading.scale + 1)⌋₊ := by
          rw [next]
          by_contra short
          exact full ⟨by omega, by omega⟩
        calc (2 : Rat) ^ 96 ≤ ⌊value * 10 ^ (reading.scale + 1)⌋₊ := by exact_mod_cast large
          _ ≤ value * 10 ^ (reading.scale + 1) := Nat.floor_le (by positivity)
  have half : value * 10 ^ reading.scale + 1 / 2 =
      (value * 10 ^ (reading.scale + 1) + (5 : Nat)) / (10 : Nat) := by
    push_cast
    ring
  rw [kept, here, half, Nat.floor_div_natCast, Nat.floor_add_natCast (by positivity), next]

structure Reading.Complete (reading : Reading) : Prop where
  digitSeen : reading.digitSeen = true
  small : reading.coefficient < 2 ^ 96
  few : reading.scale ≤ 28

theorem Reading.Complete.exists_toDecimal_eq_ok {reading : Reading} (complete : reading.Complete) :
    ∃ number, reading.toDecimal false = .ok number := by
  have bounded : (reading.coefficient : Int).natAbs < 2 ^ 96 := complete.small
  unfold Reading.toDecimal ofParts?
  rw [if_pos complete.digitSeen]
  dsimp only
  rw [if_neg Bool.false_ne_true, dif_pos bounded, dif_pos complete.few]
  exact ⟨_, rfl⟩

/-- What reading a number comes to.  Rounding up at the bound of the coefficient is a matter of
its own: it leaves a number of one decimal less, which is off by four tenths of its last place. -/
inductive Keeps (value : Rat) : Except TextFault Reading → Prop where
  | kept (result : Reading) :
      result.Complete →
      result.amount = Decimal.kept value →
      Keeps value (.ok result)
  | carried (result : Reading) :
      result.Complete →
      result.coefficient = (2 ^ 96 + 4) / 10 →
      Decimal.kept value = 2 ^ 96 / 10 ^ (result.scale + 1) →
      Keeps value (.ok result)
  | refused (fault : TextFault) :
      2 ^ 96 ≤ Decimal.kept value →
      Keeps value (.error fault)

theorem roundedUp_eq {digit : Char} (isOne : isDigit digit = true) (coefficient : Nat) :
    (10 * coefficient + (digit.toNat - '0'.toNat) + 5) / 10 =
      if digit < '5' then coefficient else coefficient + 1 := by
  have range := toNat_of_isDigit isOne
  have zero : '0'.toNat = 48 := rfl
  rw [zero]
  by_cases below : digit.toNat < 53
  · rw [if_pos (show digit < '5' from below)]
    omega
  · rw [if_neg (show ¬ digit < '5' from below)]
    omega

theorem Reading.Complete.keeps_round {reading : Reading} (complete : reading.Complete)
    {digit : Char} (isOne : isDigit digit = true) {value : Rat}
    (rounded : kept value =
      ((10 * reading.coefficient + (digit.toNat - '0'.toNat) + 5) / 10 : Nat) /
        10 ^ reading.scale) :
    Keeps value (reading.round digit) := by
  rw [roundedUp_eq isOne] at rounded
  unfold Reading.round
  by_cases below : digit < '5'
  · rw [if_pos below] at rounded ⊢
    exact .kept _ complete rounded.symm
  · rw [if_neg below] at rounded ⊢
    split
    · rename_i room
      exact .kept _ ⟨complete.digitSeen, room, complete.few⟩ rounded.symm
    · rename_i none
      have bound : reading.coefficient + 1 = 2 ^ 96 := by
        have small := complete.small
        omega
      rw [bound] at rounded
      cases scale : reading.scale with
      | zero =>
          refine .refused _ ?_
          rw [rounded, scale]
          norm_num
      | succ fewer =>
          have few := complete.few
          refine .carried _ ⟨complete.digitSeen, ?_, by dsimp only; omega⟩ ?_ ?_
          · dsimp only
            omega
          · dsimp only
            omega
          · rw [rounded, scale]
            norm_num

theorem checkRest_of_isDigit {digits : List Char}
    (numeric : ∀ digit ∈ digits, isDigit digit = true) : checkRest digits = .ok () := by
  induction digits with
  | nil => rfl
  | cons digit rest inductionHypothesis =>
      obtain ⟨isOne, others⟩ := List.forall_mem_cons.mp numeric
      rw [checkRest, isOne, Bool.true_or, if_pos rfl]
      exact inductionHypothesis others

theorem Reading.Complete.keeps_self {reading : Reading} (complete : reading.Complete) :
    Keeps (reading.meant []) (.ok reading) := by
  have whole : reading.meant [] * 10 ^ reading.scale = reading.coefficient := by
    simp [meant, behind]
  refine .kept reading complete ?_
  rw [kept_eq_self (le_room complete.few ?_) whole]
  · simp [meant, behind, amount]
  · rw [whole]
    exact_mod_cast complete.small

/-- Digits behind the point are read as far as there is room for them. -/
theorem Reading.Complete.keeps_readPlain {reading : Reading} (complete : reading.Complete)
    (seen : reading.pointSeen = true) {digits : List Char}
    (numeric : ∀ digit ∈ digits, isDigit digit = true) :
    Keeps (reading.meant digits) (readPlain reading digits) := by
  induction digits generalizing reading with
  | nil => exact complete.keeps_self
  | cons digit rest inductionHypothesis =>
      obtain ⟨isOne, others⟩ := List.forall_mem_cons.mp numeric
      rw [readPlain, if_pos isOne]
      dsimp only
      rw [if_pos seen]
      split
      · rename_i room
        rw [← Reading.meant_decimal seen isOne]
        exact inductionHypothesis ⟨rfl, room.2, room.1⟩ seen others
      · rename_i full
        have outcome := complete.keeps_round isOne
          (reading.kept_meant_of_full seen complete.small complete.few isOne others full)
        rw [checkRest_of_isDigit others]
        generalize reading.round digit = rounded at outcome ⊢
        cases rounded with
        | error fault => exact outcome
        | ok after => exact outcome

theorem Reading.coefficient_le_meant {reading : Reading} (unscaled : reading.scale = 0)
    (rest : List Char) : reading.coefficient ≤ reading.meant rest := by
  have fewer : (reading.behind rest).length ≤ (rest.filter isDigit).length := by
    unfold behind
    split
    · exact Nat.le_refl _
    · exact ((List.dropWhile_sublist _).filter _).length_le
  rw [meant, unscaled, Nat.zero_add, le_div_iff₀ (by positivity),
    Nat.ofDigitChars_eq_ofDigitChars_zero]
  have powers : 10 ^ (reading.behind rest).length ≤ 10 ^ (rest.filter isDigit).length :=
    Nat.pow_le_pow_right (by decide) fewer
  exact_mod_cast (Nat.mul_le_mul_left reading.coefficient powers).trans
    (by rw [mul_comm]; exact Nat.le_add_right _ _)

theorem Reading.le_kept_meant {reading : Reading} (unscaled : reading.scale = 0)
    (large : 2 ^ 96 ≤ reading.coefficient) (rest : List Char) :
    2 ^ 96 ≤ kept (reading.meant rest) := by
  refine le_kept (le_trans ?_ (Reading.coefficient_le_meant unscaled rest))
  exact_mod_cast large

/-- Digits, and maybe a point with more digits behind it. -/
inductive IsPlain : List Char → Prop where
  | whole (digits : List Char) :
      digits ≠ [] →
      (∀ digit ∈ digits, isDigit digit = true) →
      IsPlain digits
  | pointed (whole fraction : List Char) :
      whole ≠ [] →
      (∀ digit ∈ whole, isDigit digit = true) →
      fraction ≠ [] →
      (∀ digit ∈ fraction, isDigit digit = true) →
      IsPlain (whole ++ '.' :: fraction)

theorem IsPlain.exists_cons {characters : List Char} (plain : IsPlain characters) :
    ∃ digit rest, characters = digit :: rest ∧ isDigit digit = true := by
  cases plain with
  | whole _ present numeric =>
      obtain ⟨digit, rest, rfl⟩ := List.exists_cons_of_ne_nil present
      exact ⟨digit, rest, rfl, numeric digit List.mem_cons_self⟩
  | pointed whole fraction present numeric _ _ =>
      obtain ⟨digit, rest, rfl⟩ := List.exists_cons_of_ne_nil present
      exact ⟨digit, rest ++ '.' :: fraction, rfl, numeric digit List.mem_cons_self⟩

theorem IsPlain.value_ofPlain {characters : List Char} (plain : IsPlain characters) :
    (Numeral.ofPlain characters).value = (Numeral.ofPlain characters).size := by
  obtain ⟨digit, rest, rfl, isOne⟩ := plain.exists_cons
  rw [Numeral.value, if_neg]
  rw [Numeral.ofPlain, decide_eq_true_eq, List.head?_cons, Option.some.injEq]
  exact ne_of_isDigit isOne '-' (by decide)

/-- Digits before the point are read as long as the coefficient has room for them. -/
theorem Reading.keeps_readPlain_append {reading : Reading} (unseen : reading.pointSeen = false)
    (unscaled : reading.scale = 0) (small : reading.coefficient < 2 ^ 96) {whole tail : List Char}
    (numeric : ∀ digit ∈ whole, isDigit digit = true)
    (begun : reading.digitSeen = true ∨ whole ≠ [])
    (behind : ∀ before : Reading, before.Complete → before.pointSeen = false →
      Keeps (before.meant tail) (readPlain before tail)) :
    Keeps (reading.meant (whole ++ tail)) (readPlain reading (whole ++ tail)) := by
  induction whole generalizing reading with
  | nil =>
      have digitSeen := begun.resolve_right (not_not.mpr rfl)
      exact behind reading ⟨digitSeen, small, by omega⟩ unseen
  | cons digit rest inductionHypothesis =>
      obtain ⟨isOne, others⟩ := List.forall_mem_cons.mp numeric
      rw [List.cons_append, readPlain, if_pos isOne]
      dsimp only
      rw [if_neg (by rw [unseen]; exact Bool.false_ne_true), ← Reading.meant_whole unseen isOne]
      split
      · rename_i room
        exact inductionHypothesis unseen unscaled room others (.inl rfl)
      · rename_i none
        refine .refused _ (Reading.le_kept_meant ?_ ?_ _)
        · exact unscaled
        · exact not_lt.mp none

theorem keeps_readPlain {characters : List Char} (plain : IsPlain characters) :
    Keeps (Numeral.ofPlain characters).size (readPlain .start characters) := by
  rw [← Reading.meant_start]
  cases plain with
  | whole _ present numeric =>
      rw [← List.append_nil characters]
      exact Reading.keeps_readPlain_append rfl rfl (by decide) numeric (.inr present)
        fun before complete _ => complete.keeps_self
  | pointed whole fraction present numeric _ numericBehind =>
      refine Reading.keeps_readPlain_append rfl rfl (by decide) numeric (.inr present)
        fun before complete unseen => ?_
      rw [readPlain, if_neg (by decide), if_pos rfl,
        if_neg (by rw [unseen]; exact Bool.false_ne_true), ← Reading.meant_point unseen]
      refine Reading.Complete.keeps_readPlain ?_ ?_ numericBehind
      · exact ⟨complete.digitSeen, complete.small, complete.few⟩
      · rfl

/--
A number in plain notation is read as what is kept of it, except that one which is rounded up to
the bound of the coefficient comes out a little larger, and that one which is not kept below the
bound is not read at all.
-/
theorem parseCharacters_cases {characters : List Char} (plain : IsPlain characters) :
    (∃ number, parseCharacters characters = .ok number ∧
      number.value = kept (Numeral.ofPlain characters).size) ∨
    (∃ number scale, parseCharacters characters = .ok number ∧
      number.value = ((2 ^ 96 + 4) / 10 : Nat) / 10 ^ scale ∧
      kept (Numeral.ofPlain characters).size = (2 ^ 96 : Nat) / 10 ^ (scale + 1)) ∨
    (∃ fault, parseCharacters characters = .error fault ∧
      2 ^ 96 ≤ kept (Numeral.ofPlain characters).size) := by
  have read := keeps_readPlain plain
  obtain ⟨digit, rest, shape, isOne⟩ := plain.exists_cons
  have parsed : parseCharacters characters =
      (readPlain .start characters).bind (Reading.toDecimal false) := by
    rw [shape]
    exact parseCharacters_of_isDigit isOne rest
  rw [parsed]
  generalize readPlain .start characters = outcome at read ⊢
  cases read with
  | kept result complete amount =>
      obtain ⟨number, made⟩ := complete.exists_toDecimal_eq_ok
      refine .inl ⟨number, made, ?_⟩
      rw [Reading.value_of_toDecimal_eq_ok made]
      exact amount
  | carried result complete coefficient kept =>
      obtain ⟨number, made⟩ := complete.exists_toDecimal_eq_ok
      refine .inr (.inl ⟨number, result.scale, made, ?_, by exact_mod_cast kept⟩)
      rw [Reading.value_of_toDecimal_eq_ok made, if_neg Bool.false_ne_true, Reading.amount,
        coefficient]
  | refused fault large => exact .inr (.inr ⟨fault, rfl, large⟩)

end Clearing.Decimal
