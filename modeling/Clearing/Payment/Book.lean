import Clearing.Bus.Outbox
import Clearing.Payment.Error
import Clearing.Payment.Record
import Clearing.Table
/-!
The payment book: the stored payments and the outbox that shares their
database.  Each payment has an id of its own and an idempotency key of its own.
-/

namespace Clearing

/-- What became of a payment that was to be added. -/
inductive InsertOutcome where
  | inserted
  /-- The same payment is in the book already. -/
  | duplicate
  /-- The idempotency key belongs to the payment of the given id. -/
  | keyTaken (owner : String)
deriving DecidableEq

structure PaymentBook where
  records : Table String PaymentRecord
  outbox : Outbox
  /-- The database behind the book answers. -/
  online : Bool

namespace PaymentBook

def empty : PaymentBook where
  records := .empty
  outbox := .empty
  online := true

def owner? (book : PaymentBook) (key : String) : Option PaymentRecord :=
  book.records.values.find? fun record => record.idempotencyKey == key

/-- Store a new record, and with it the message that announces it. -/
def store (book : PaymentBook) (record : PaymentRecord)
    (message : Option OutboundMessage) : PaymentBook :=
  { book with
    records := book.records.insert record.id record
    outbox :=
      match message with
      | some message => (book.outbox.push message).2
      | none => book.outbox }

/-- Add a payment.  Its id is looked at before its idempotency key. -/
def insert (book : PaymentBook) (record : PaymentRecord)
    (message : Option OutboundMessage) :
    Except PaymentError InsertOutcome × PaymentBook :=
  if book.online then
    match book.records.get? record.id with
    | some held =>
        if held.SameTransfer record then
          (.ok .duplicate, book)
        else
          (.error (.conflict record.id), book)
    | none =>
        match book.owner? record.idempotencyKey with
        | some owner => (.ok (.keyTaken owner.id), book)
        | none => (.ok .inserted, book.store record message)
  else
    (.error .database, book)

def get (book : PaymentBook) (id : String) :
    Except PaymentError (Option PaymentRecord) :=
  if book.online then .ok (book.records.get? id) else .error .database

/-- A record with another status, changed at the given moment. -/
def withStatus (record : PaymentRecord) (status : PaymentStatus)
    (now : Timestamp) : PaymentRecord :=
  { record with
    status := status.name
    version := record.version + 1
    updated := now }

/-- Move a payment to a status, and tell whether that was a change. -/
def updateStatus (book : PaymentBook) (id : String) (target : PaymentStatus)
    (now : Timestamp) : Except PaymentError Bool × PaymentBook :=
  if book.online then
    match book.records.get? id with
    | none => (.error (.notFound id), book)
    | some record =>
        match PaymentStatus.ofStored id record.status with
        | .error error => (.error error, book)
        | .ok current =>
            match current.checkTransition target with
            | .error error => (.error (.transition error), book)
            | .ok () =>
                if current = target then
                  (.ok false, book)
                else
                  (.ok true,
                    { book with
                      records :=
                        book.records.insert id
                          (withStatus record target now) })
  else
    (.error .database, book)

end PaymentBook

end Clearing
