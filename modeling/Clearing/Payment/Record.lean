import Clearing.Payment.Request
import Clearing.Payment.Status
/-!
Payments as they are stored, and the two answers that clients get about them:
a receipt when a payment is initiated, and its details later on.
-/

namespace Clearing

structure PaymentRecord where
  id : String
  source : String
  destination : String
  amount : Decimal
  currency : String
  /-- The stored name of the status. -/
  status : String
  idempotencyKey : String
  /-- One more than the number of changes since the record was made. -/
  version : Int
  created : Timestamp
  updated : Timestamp
deriving DecidableEq

/-- The answer to a request that was accepted. -/
structure Receipt where
  id : String
  status : StatusView
  message : String
deriving DecidableEq

structure PaymentView where
  id : String
  status : StatusView
  message : String
  amount : Decimal
  currency : String
  source : String
  destination : String
deriving DecidableEq

namespace PaymentRecord

/-- The record of a payment that has just been accepted. -/
def pending (payment : ValidPayment) (now : Timestamp) : PaymentRecord where
  id := payment.id
  source := payment.source.text
  destination := payment.destination.text
  amount := payment.amount.value
  currency := payment.currency.code
  status := PaymentStatus.pending.name
  idempotencyKey := payment.idempotencyKey
  version := 1
  created := now
  updated := now

/-- Two records of one id that move the same amount between the same accounts. -/
def SameTransfer (left right : PaymentRecord) : Prop :=
  left.id = right.id ∧ left.source = right.source ∧
    left.destination = right.destination ∧
    left.amount.SameValue right.amount ∧ left.currency = right.currency

instance (left right : PaymentRecord) : Decidable (left.SameTransfer right) :=
  inferInstanceAs (Decidable (_ ∧ _))

def view (record : PaymentRecord) : PaymentView where
  id := record.id
  status := StatusView.ofStored record.status
  message := "Payment details retrieved"
  amount := record.amount
  currency := record.currency
  source := record.source
  destination := record.destination

end PaymentRecord

namespace Receipt

/-- The receipt of a payment that waits for settlement. -/
def pending (id : String) : Receipt where
  id := id
  status := .known .pending
  message := "Payment initiated"

def fields : List Json.Field :=
  [⟨"payment_id", String, Json.string⟩,
    ⟨"status", StatusView, Json.oneOf StatusView.ofName?⟩,
    ⟨"message", String, Json.string⟩]

def ofRow (row : Json.Row fields) : Receipt :=
  match row with
  | (id, status, message, _) => { id, status, message }

def decode (bytes : Bytes) : Except Json.Fault Receipt :=
  (Json.decode (Json.record fields) bytes).map ofRow

def encode (receipt : Receipt) : Bytes :=
  Json.writeObject
    [("payment_id", Json.writeString receipt.id),
      ("status", Json.writeString receipt.status.name),
      ("message", Json.writeString receipt.message)]

end Receipt

def PaymentView.encode (view : PaymentView) : Bytes :=
  Json.writeObject
    [("payment_id", Json.writeString view.id),
      ("status", Json.writeString view.status.name),
      ("message", Json.writeString view.message),
      ("amount", Json.writeDecimal view.amount),
      ("currency", Json.writeString view.currency),
      ("from_account", Json.writeString view.source),
      ("to_account", Json.writeString view.destination)]

end Clearing
