import Clearing.Proofs.Except
import Clearing.Proofs.Json.Following
import Clearing.Proofs.Settlement.Events
/-!
Events that are read, written and read again.  Reading once settles what an event is: whatever
is written from it is read with the same strings, the same moment and the same digits of the
amount.  Its text settles with the second writing at the latest, since the sign of a zero is
written and is not read back.
-/

namespace Clearing

namespace Json

theorem yields_moment :
    Yields moment fun value => Date.YearInRange value.date.year := by
  intro bytes value rest read
  obtain ⟨text, middle, _, taken⟩ := (read_bind_eq_ok_iff _ _ _ _ _).mp read
  cases parsed : Timestamp.parse text with
  | none =>
      rw [parsed] at taken
      cases taken
  | some moment =>
      rw [parsed] at taken
      cases taken
      exact Timestamp.yearInRange_of_parse parsed

end Json

namespace SettlementEvent

open Json

def fieldPairs : List FieldPair :=
  [.same ⟨"payment_id", String, string⟩, .same ⟨"from_account", String, string⟩,
    .same ⟨"to_account", String, string⟩, .same ⟨"amount", Decimal, decimal⟩,
    .same ⟨"currency", String, string⟩, .lawful "timestamp" yields_moment]

theorem inRange_of_decode {bytes : Bytes} {event : SettlementEvent}
    (decoded : decode bytes = .ok event) :
    Date.YearInRange event.timestamp.date.year := by
  obtain ⟨row, read, rfl⟩ := exists_of_map_eq_ok decoded
  obtain ⟨other, _, rows⟩ := (follows_record fieldPairs).decode_eq_ok read
  exact rows.2.2.2.2.2.1

/-- The fields of an event, with the amount left as the text that it is. -/
def textFields : List Field :=
  [⟨"payment_id", String, string⟩, ⟨"from_account", String, string⟩,
    ⟨"to_account", String, string⟩, ⟨"amount", String, string⟩,
    ⟨"currency", String, string⟩, ⟨"timestamp", Timestamp, moment⟩]

theorem decode_textFields {event : SettlementEvent}
    (inRange : Date.YearInRange event.timestamp.date.year) :
    Json.decode (record textFields) event.encode =
      .ok (event.id, event.source, event.destination, event.amount.toText, event.currency,
        event.timestamp, ()) := by
  have written : Written textFields
      (event.id, event.source, event.destination, event.amount.toText, event.currency,
        event.timestamp, ()) event.members :=
    .cons (reads_string _) <| .cons (reads_string _) <| .cons (reads_string _) <|
      .cons (reads_string _) <| .cons (reads_string _) <| .cons (reads_moment inRange) .nil
  exact decode_eq_ok_of_reads (reads_record written (by decide) (by simp))

theorem encode_plain_eq_iff {event : SettlementEvent}
    (inRange : Date.YearInRange event.timestamp.date.year) :
    event.plain.encode = event.encode ↔ event.amount.minusZero = false := by
  constructor
  · intro same
    have texts := @decode_textFields event.plain inRange
    rw [same, decode_textFields inRange] at texts
    have amounts := congrArg (fun row : Row textFields => row.2.2.2.1) (Except.ok.inj texts)
    exact event.amount.toText_plain_eq_iff.mp amounts.symm
  · intro unsigned
    rw [plain, Decimal.plain_eq_self unsigned]

/-- Two events that differ in nothing but the sign of a zero, which the second has not. -/
structure SameButSign (event again : SettlementEvent) : Prop where
  others : { event with amount := again.amount } = again
  coefficient_eq : again.amount.coefficient = event.amount.coefficient
  scale_eq : again.amount.scale = event.amount.scale
  unsigned : again.amount.minusZero = false

theorem sameButSign_plain (event : SettlementEvent) : event.SameButSign event.plain :=
  ⟨rfl, rfl, rfl, rfl⟩

/-- Whatever was read is read again with the same digits, and from then on is settled. -/
theorem exists_reread {bytes : Bytes} {event : SettlementEvent}
    (decoded : decode bytes = .ok event) :
    ∃ again, decode event.encode = .ok again ∧ event.SameButSign again ∧
      decode again.encode = .ok again ∧
      (again = event ↔ event.amount.minusZero = false) ∧
      (again.encode = event.encode ↔ event.amount.minusZero = false) := by
  have inRange := inRange_of_decode decoded
  refine ⟨event.plain, decode_encode_eq_plain inRange, event.sameButSign_plain, ?_, ?_,
    encode_plain_eq_iff inRange⟩
  · exact @decode_encode_eq_plain event.plain inRange
  · constructor
    · intro same
      exact congrArg (fun event => event.amount.minusZero) same.symm
    · intro unsigned
      rw [plain, Decimal.plain_eq_self unsigned]

/--
Published events are read back as they are: every text, every moment and every amount with its
scale.  An event that has been read is written so that it is read back too, and but for the
sign of a zero its text is a normal form.
-/
theorem events_read_back :
    (∀ event : SettlementEvent, Date.YearInRange event.timestamp.date.year →
      event.amount.minusZero = false → decode event.encode = .ok event) ∧
    (∀ (payment : ValidPayment) (moment : Timestamp), Date.YearInRange moment.date.year →
      decode (ofPayment payment moment).encode = .ok (ofPayment payment moment)) ∧
    ∀ (bytes : Bytes) (event : SettlementEvent), decode bytes = .ok event →
      ∃ again, decode event.encode = .ok again ∧ event.SameButSign again ∧
        decode again.encode = .ok again ∧
        (again = event ↔ event.amount.minusZero = false) ∧
        (again.encode = event.encode ↔ event.amount.minusZero = false) := by
  refine ⟨?_, ?_, ?_⟩
  · intro event inRange unsigned
    exact decode_encode ⟨unsigned, inRange⟩
  · intro payment moment inRange
    exact decode_ofPayment inRange
  · intro bytes event decoded
    exact exists_reread decoded

/-- An event as a client might write it, with texts that have to be escaped. -/
def clientText (amount moment : String) : Bytes :=
  writeObject
    [("payment_id", writeString "say \"p\\1\"\x00"), ("from_account", writeString "a"),
      ("to_account", writeString "b"), ("amount", writeString amount),
      ("currency", writeString "USD"), ("timestamp", writeString moment)]

/-- What a leap second, an offset and a power of ten are read as. -/
def clientEvent : SettlementEvent where
  id := "say \"p\\1\"\x00"
  source := "a"
  destination := "b"
  amount := { coefficient := 1207, scale := 26 }
  currency := "USD"
  timestamp :=
    { date := { year := 2016, month := 12, day := 31 }
      hour := 23, minute := 59, second := 60, nanosecond := 123456789 }

theorem events_read_back_leapSecond :
    decode (clientText "12.07e-24" "2017-01-01T00:59:60.123456789+01:00") = .ok clientEvent ∧
      decode clientEvent.encode = .ok clientEvent ∧
      ∃ again, decode clientEvent.encode = .ok again ∧
        again.encode = clientEvent.encode := by
  obtain ⟨legible, _, reread⟩ := events_read_back
  have decoded : decode (clientText "12.07e-24" "2017-01-01T00:59:60.123456789+01:00") =
      .ok clientEvent := by
    decide +kernel
  refine ⟨decoded, legible clientEvent (by decide) rfl, ?_⟩
  obtain ⟨again, read, _, _, _, normal⟩ := reread _ _ decoded
  exact ⟨again, read, normal.mpr rfl⟩

/-- A number below zero of which no digit is left keeps its sign for one more writing. -/
theorem encode_ne_encode_vanished :
    ∃ event again,
      decode (clientText "-0.4e-28" "2024-05-01T12:00:00Z") = .ok event ∧
        decode event.encode = .ok again ∧ again.encode ≠ event.encode := by
  have read : ((decode (clientText "-0.4e-28" "2024-05-01T12:00:00Z")).toOption.map
      fun event => event.amount) = some Decimal.vanished := by
    decide +kernel
  obtain ⟨event, found, vanished⟩ := Option.map_eq_some_iff.mp read
  have decoded := eq_ok_of_toOption_eq_some found
  obtain ⟨again, reread, _, _, _, normal⟩ := exists_reread decoded
  refine ⟨event, again, decoded, reread, fun same => ?_⟩
  have unsigned := normal.mp same
  rw [vanished] at unsigned
  cases unsigned

end SettlementEvent

end Clearing
