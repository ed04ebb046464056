import Clearing.Proofs.Decimal.Text
import Clearing.Proofs.Decimal.Value
import Clearing.Proofs.Json.Records
import Clearing.Proofs.Time.Text
import Clearing.Settlement.Event
/-!
Settlement events are read back from the bytes that they are written as.
-/

namespace Clearing

namespace Json

theorem reads_decimal (number : Decimal) :
    Reads decimal (writeDecimal number) number.plain := by
  intro rest
  rw [writeDecimal, writeString, List.cons_append, List.cons_append, decimal,
    bind_eq_of_ok (peek_cons (by decide) _), if_pos rfl,
    bind_eq_of_ok (advance_cons _ _),
    bind_eq_of_ok (reads_stringRest number.toText rest),
    Decimal.parseEither_toText number]
  rfl

theorem reads_moment {value : Timestamp}
    (inRange : Date.YearInRange value.date.year) :
    Reads moment (writeMoment value) value :=
  reads_stringAs (Timestamp.parse_toText value inRange)

end Json

theorem Decimal.minusZero_of_zero_lt {number : Decimal}
    (positive : Decimal.zero < number) : number.minusZero = false := by
  cases minus : number.minusZero with
  | false => rfl
  | true =>
      rw [Decimal.lt_iff_value_lt, Decimal.value_zero, Decimal.value_eq_div,
        number.eq_zero_of_minusZero minus] at positive
      simp at positive

namespace SettlementEvent

/-- An event that its JSON text tells apart from every other event. -/
structure Legible (event : SettlementEvent) : Prop where
  plain : event.amount.minusZero = false
  inRange : Date.YearInRange event.timestamp.date.year

def members (event : SettlementEvent) : List (String × Bytes) :=
  [("payment_id", Json.writeString event.id),
    ("from_account", Json.writeString event.source),
    ("to_account", Json.writeString event.destination),
    ("amount", Json.writeDecimal event.amount),
    ("currency", Json.writeString event.currency),
    ("timestamp", Json.writeMoment event.timestamp)]

def row (event : SettlementEvent) : Json.Row fields :=
  (event.id, event.source, event.destination, event.amount, event.currency,
    event.timestamp, ())

def plain (event : SettlementEvent) : SettlementEvent :=
  { event with amount := event.amount.plain }

theorem Legible.plain_eq_self {event : SettlementEvent} (legible : event.Legible) :
    event.plain = event := by
  rw [SettlementEvent.plain, Decimal.plain_eq_self legible.plain]

theorem written {event : SettlementEvent}
    (inRange : Date.YearInRange event.timestamp.date.year) :
    Json.Written fields event.plain.row event.members :=
  .cons (Json.reads_string _) <| .cons (Json.reads_string _) <|
    .cons (Json.reads_string _) <| .cons (Json.reads_decimal _) <|
    .cons (Json.reads_string _) <| .cons (Json.reads_moment inRange) .nil

theorem decode_encode_eq_plain {event : SettlementEvent}
    (inRange : Date.YearInRange event.timestamp.date.year) :
    decode event.encode = .ok event.plain := by
  have reads := Json.reads_record (written inRange) (by decide) (by simp [members])
  have whole := Json.decode_eq_ok_of_reads reads
  have same : event.encode = Json.writeObject event.members := rfl
  rw [decode, same, whole]
  rfl

theorem decode_encode {event : SettlementEvent} (legible : event.Legible) :
    decode event.encode = .ok event := by
  rw [decode_encode_eq_plain legible.inRange, legible.plain_eq_self]

theorem decode_ofPayment {payment : ValidPayment} {moment : Timestamp}
    (inRange : Date.YearInRange moment.date.year) :
    decode (ofPayment payment moment).encode = .ok (ofPayment payment moment) := by
  apply decode_encode
  constructor
  · exact Decimal.minusZero_of_zero_lt payment.amount.positive
  · exact inRange

end SettlementEvent

end Clearing
