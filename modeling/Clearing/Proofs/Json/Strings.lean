import Clearing.Json.Record
import Clearing.Json.Writer
import Mathlib.Tactic.IntervalCases
/-!
Strings in JSON are read back as they were written, whatever they hold and
whatever follows them.
-/

namespace Clearing.Json

/-- A reader takes exactly what was written, whatever follows it. -/
def Reads {Value : Type} (reader : Reader Value) (written : Bytes)
    (value : Value) : Prop :=
  ∀ rest, reader (written ++ rest) = .ok (value, rest)

theorem bind_eq_of_ok {First Second : Type}
    {first : Reader First} {next : First → Reader Second}
    {bytes rest : Bytes} {value : First}
    (read : first bytes = .ok (value, rest)) :
    (first >>= next) bytes = next value rest := by
  change (first bytes >>= fun result => next result.1 result.2) = _
  rw [read]
  rfl

theorem peek_cons {byte : UInt8} (solid : isSpace byte = false) (rest : Bytes) :
    peek (byte :: rest) = .ok (byte, byte :: rest) := by
  simp [peek, skipSpace, List.dropWhile, solid]

theorem exists_escape_of_lt {byte : UInt8} (control : byte < 0x20) :
    ∃ marks, writeByte byte = ascii '\\' :: marks ∧
      ∀ rest, escape (marks ++ rest) = .ok ([byte], rest) := by
  have small : byte.toNat < 32 := UInt8.lt_iff_toNat_lt.mp control
  have written : byte = UInt8.ofNat byte.toNat := UInt8.ofNat_toNat.symm
  generalize byte.toNat = code at small written
  subst written
  interval_cases code
  all_goals exact ⟨_, rfl, fun _ => rfl⟩

/-- One byte of a string is read back from the marks that it is written as. -/
theorem stringBody_writeByte (byte : UInt8) (fuel : Nat) (rest : Bytes) :
    stringBody (fuel + 1) (writeByte byte ++ rest) =
      (stringBody fuel rest).map fun read => (byte :: read.1, read.2) := by
  have escaped {marks : Bytes}
      (meant : ∀ rest, escape (marks ++ rest) = .ok ([byte], rest)) :
      stringBody (fuel + 1) (ascii '\\' :: (marks ++ rest)) =
        (stringBody fuel rest).map fun read => (byte :: read.1, read.2) := by
    rw [stringBody, if_neg (by decide), if_pos rfl, meant]
    change (stringBody fuel rest >>= fun read => pure _) = _
    cases stringBody fuel rest <;> rfl
  by_cases quoted : byte = ascii '"' ∨ byte = ascii '\\'
  · have written : writeByte byte = ascii '\\' :: [byte] := if_pos quoted
    rw [written]
    apply escaped
    intro rest
    rcases quoted with rfl | rfl <;> rfl
  · by_cases control : byte < 0x20
    · obtain ⟨marks, written, meant⟩ := exists_escape_of_lt control
      rw [written]
      exact escaped meant
    · have written : writeByte byte = [byte] := by
        rw [writeByte, if_neg quoted, if_neg control]
      rw [not_or] at quoted
      rw [written, List.singleton_append, stringBody, if_neg quoted.1,
        if_neg quoted.2, if_neg control]
      cases stringBody fuel rest <;> rfl

theorem stringBody_flatMap_writeByte (body : Bytes) (fuel : Nat)
    (enough : body.length < fuel) (rest : Bytes) :
    stringBody fuel (body.flatMap writeByte ++ ascii '"' :: rest) =
      .ok (body, rest) := by
  induction body generalizing fuel with
  | nil =>
      obtain ⟨fuel, rfl⟩ := Nat.exists_eq_succ_of_ne_zero (Nat.ne_of_gt enough)
      rfl
  | cons byte body inductionHypothesis =>
      obtain ⟨fuel, rfl⟩ := Nat.exists_eq_succ_of_ne_zero (Nat.ne_zero_of_lt enough)
      rw [List.flatMap_cons, List.append_assoc, Nat.succ_eq_add_one,
        stringBody_writeByte, inductionHypothesis fuel (Nat.lt_of_succ_lt_succ enough)]
      rfl

theorem length_le_length_flatMap_writeByte (body : Bytes) :
    body.length ≤ (body.flatMap writeByte).length := by
  induction body with
  | nil => exact Nat.le_refl 0
  | cons byte body inductionHypothesis =>
      have written : 1 ≤ (writeByte byte).length := by
        simp only [writeByte]
        repeat' split
        all_goals simp
      rw [List.flatMap_cons, List.length_append, List.length_cons]
      omega

theorem reads_stringRest (text : String) :
    Reads stringRest ((Bytes.ofText text).flatMap writeByte ++ [ascii '"'])
      text := by
  intro rest
  have longer := length_le_length_flatMap_writeByte (Bytes.ofText text)
  rw [List.append_assoc, List.singleton_append]
  simp only [stringRest]
  rw [stringBody_flatMap_writeByte _ _ (by rw [List.length_append]; omega)]
  simp only [bind, Except.bind, Bytes.toText?_ofText]

theorem reads_string (text : String) : Reads string (writeString text) text := by
  intro rest
  rw [writeString, List.cons_append, List.cons_append, string,
    bind_eq_of_ok (peek_cons (by decide) _)]
  exact reads_stringRest text rest

theorem reads_stringAs {Value : Type} {parse : String → Option Value}
    {text : String} {value : Value} (parsed : parse text = some value) :
    Reads (stringAs parse) (writeString text) value := by
  intro rest
  rw [stringAs, bind_eq_of_ok (reads_string text rest), parsed]
  rfl

end Clearing.Json
