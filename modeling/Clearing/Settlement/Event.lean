import Clearing.Payment.Request
/-!
Settlement events.  An event asks the ledger to settle one payment; it travels
over the event bus as JSON.
-/

namespace Clearing

structure SettlementEvent where
  id : String
  source : String
  destination : String
  amount : Decimal
  currency : String
  timestamp : Timestamp
deriving DecidableEq

namespace SettlementEvent

def ofPayment (payment : ValidPayment) (timestamp : Timestamp) :
    SettlementEvent where
  id := payment.id
  source := payment.source.text
  destination := payment.destination.text
  amount := payment.amount.value
  currency := payment.currency.code
  timestamp := timestamp

def fields : List Json.Field :=
  [⟨"payment_id", String, Json.string⟩, ⟨"from_account", String, Json.string⟩,
    ⟨"to_account", String, Json.string⟩, ⟨"amount", Decimal, Json.decimal⟩,
    ⟨"currency", String, Json.string⟩, ⟨"timestamp", Timestamp, Json.moment⟩]

def ofRow (row : Json.Row fields) : SettlementEvent :=
  match row with
  | (id, source, destination, amount, currency, timestamp, _) =>
      { id, source, destination, amount, currency, timestamp }

def decode (bytes : Bytes) : Except Json.Fault SettlementEvent :=
  (Json.decode (Json.record fields) bytes).map ofRow

def encode (event : SettlementEvent) : Bytes :=
  Json.writeObject
    [("payment_id", Json.writeString event.id),
      ("from_account", Json.writeString event.source),
      ("to_account", Json.writeString event.destination),
      ("amount", Json.writeDecimal event.amount),
      ("currency", Json.writeString event.currency),
      ("timestamp", Json.writeMoment event.timestamp)]

/-- Two events that ask for the same, however their amounts are written. -/
def SameRequest (left right : SettlementEvent) : Prop :=
  left.amount.SameValue right.amount ∧
    { left with amount := right.amount } = right

instance (left right : SettlementEvent) : Decidable (left.SameRequest right) :=
  inferInstanceAs (Decidable (_ ∧ _))

end SettlementEvent

end Clearing
