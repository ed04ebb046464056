import Clearing.Proofs.Payment.Books
import Clearing.Proofs.Payment.Requests
import Clearing.Proofs.Settlement.Deliveries
import Clearing.Proofs.Settlement.Events
import Clearing.Proofs.World.Disturbances
/-!
Consistency of the stores.  Whatever is announced anywhere is a payment that
the book holds, the book says of a payment what the ledger has decided about
it, and the ledger has moved money only as the book says.
-/

namespace Clearing

/-- The record of the payment that an order settles. -/
structure PaymentRecord.Covers (record : PaymentRecord) (order : TransferOrder) :
    Prop where
  id : record.id = order.id
  source : record.source = order.source
  destination : record.destination = order.destination
  amount : record.amount.SameValue order.amount
  currency : record.currency = order.currency.code

/-- A payload that asks the ledger for a transfer that it will decide about. -/
def TransferOrder.AskedBy (order : TransferOrder) (payload : Bytes) : Prop :=
  ∃ event, SettlementEvent.decode payload = .ok event ∧
    event.order? = some order ∧ order.check = .ok ()

theorem PaymentRecord.Covers.of_sameTransfer
    {held record : PaymentRecord} {order : TransferOrder}
    (same : held.SameTransfer record) (covers : record.Covers order) :
    held.Covers order := by
  obtain ⟨id, source, destination, amount, currency⟩ := same
  refine ⟨id.trans covers.id, source.trans covers.source,
    destination.trans covers.destination, ?_, currency.trans covers.currency⟩
  rw [Decimal.sameValue_iff_value_eq] at amount ⊢
  exact amount.trans ((Decimal.sameValue_iff_value_eq _ _).mp covers.amount)

theorem PaymentRecord.Continues.covers {before after : PaymentRecord}
    {order : TransferOrder} (continues : before.Continues after)
    (covers : before.Covers order) : after.Covers order := by
  have same := continues.samePayment
  have transfer : after.SameTransfer before := by
    refine ⟨same.id_eq, same.source_eq, same.destination_eq, ?_, same.currency_eq⟩
    rw [same.amount_eq, Decimal.sameValue_iff_value_eq]
  exact covers.of_sameTransfer transfer

namespace World

/-- The book holds the payment that an order settles. -/
def Covered (world : World) (order : TransferOrder) : Prop :=
  ∃ record, world.book.records.get? order.id = some record ∧ record.Covers order

/-- A payload that asks the ledger to settle a payment of the book. -/
def Announced (world : World) (payload : Bytes) : Prop :=
  ∃ order : TransferOrder, order.AskedBy payload ∧ world.Covered order

/-- The ledger has decided what a status says. -/
def Justified (world : World) (id : String) : PaymentStatus → Prop
  | .pending => True
  | .completed => world.ledger.decisions.get? id = some .applied
  | .failed => ∃ code, world.ledger.decisions.get? id = some (.rejected code)

structure Grows (before after : World) : Prop where
  covered : ∀ order, before.Covered order → after.Covered order
  decided : ∀ id decision, before.ledger.decisions.get? id = some decision →
    after.ledger.decisions.get? id = some decision

/-- The stores and the broker agree after some history of the ledger. -/
structure Consistent (world : World) (history : List LedgerEvent) : Prop where
  inRange : Date.YearInRange world.moment.date.year
  ledger : world.ledger = Ledger.empty.after history
  statuses : ∀ id record, world.book.records.get? id = some record →
    ∃ status, record.status = PaymentStatus.name status ∧ world.Justified id status
  outbox : ∀ entry ∈ world.book.outbox.entries,
    world.Announced entry.message.payload
  logs : ∀ name, ∀ entry ∈ world.broker.log name, world.Announced entry.payload
  applied : ∀ id, world.ledger.decisions.get? id = some .applied →
    ∃ order source destination, order.id = id ∧
      Ledger.Answered history order (.ok (.applied source destination)) ∧
      world.Covered order

structure Extends (before after : World) : Prop where
  inRange : Date.YearInRange before.moment.date.year →
    Date.YearInRange after.moment.date.year
  ledger : after.ledger = before.ledger
  covered : ∀ order, before.Covered order → after.Covered order
  statuses : ∀ id record, after.book.records.get? id = some record →
    before.book.records.get? id = some record ∨
      ∃ status, record.status = PaymentStatus.name status ∧
        before.Justified id status
  outbox : ∀ entry ∈ after.book.outbox.entries,
    (∃ held ∈ before.book.outbox.entries, held.message = entry.message) ∨
      after.Announced entry.message.payload
  logs : ∀ name, ∀ entry ∈ after.broker.log name,
    entry ∈ before.broker.log name ∨ after.Announced entry.payload

theorem Grows.trans {first second third : World} (before : first.Grows second)
    (after : second.Grows third) : first.Grows third where
  covered order covered := after.covered order (before.covered order covered)
  decided id decision held := after.decided id decision (before.decided id decision held)

theorem Grows.announced {before after : World} (grows : before.Grows after)
    {payload : Bytes} (announced : before.Announced payload) :
    after.Announced payload := by
  obtain ⟨order, asked, covered⟩ := announced
  exact ⟨order, asked, grows.covered order covered⟩

theorem Grows.justified {before after : World} (grows : before.Grows after)
    {id : String} {status : PaymentStatus} (justified : before.Justified id status) :
    after.Justified id status := by
  cases status with
  | pending => exact trivial
  | completed => exact grows.decided id .applied justified
  | failed =>
      obtain ⟨code, held⟩ := justified
      exact ⟨code, grows.decided id (.rejected code) held⟩

theorem Extends.grows {before after : World} (extended : before.Extends after) :
    before.Grows after where
  covered := extended.covered
  decided id decision held := by
    rw [extended.ledger]
    exact held

theorem Extends.of_same {before after : World}
    (moment : after.moment = before.moment) (ledger : after.ledger = before.ledger)
    (records : after.book.records = before.book.records)
    (outbox : ∀ entry ∈ after.book.outbox.entries,
      ∃ held ∈ before.book.outbox.entries, held.message = entry.message)
    (logs : after.broker.logs = before.broker.logs) :
    before.Extends after where
  inRange inRange := by
    rw [moment]
    exact inRange
  ledger := ledger
  covered order covered := by
    rw [Covered, records]
    exact covered
  statuses id record found := .inl (records ▸ found)
  outbox entry member := .inl (outbox entry member)
  logs name entry member := by
    rw [Broker.log, logs] at member
    exact .inl member

theorem Extends.of_eq {before after : World}
    (moment : after.moment = before.moment) (ledger : after.ledger = before.ledger)
    (records : after.book.records = before.book.records)
    (outbox : after.book.outbox.entries = before.book.outbox.entries)
    (logs : after.broker.logs = before.broker.logs) :
    before.Extends after :=
  .of_same moment ledger records
    (fun entry member => ⟨entry, outbox ▸ member, rfl⟩) logs

theorem Extends.refl (world : World) : world.Extends world :=
  .of_eq rfl rfl rfl rfl rfl

theorem Consistent.of_extends {before after : World} {history : List LedgerEvent}
    (consistent : before.Consistent history) (extended : before.Extends after) :
    after.Consistent history where
  inRange := extended.inRange consistent.inRange
  ledger := extended.ledger.trans consistent.ledger
  statuses id record found := by
    rcases extended.statuses id record found with held | ⟨status, named, justified⟩
    · obtain ⟨status, named, justified⟩ := consistent.statuses id record held
      exact ⟨status, named, extended.grows.justified justified⟩
    · exact ⟨status, named, extended.grows.justified justified⟩
  outbox entry member := by
    rcases extended.outbox entry member with ⟨held, earlier, same⟩ | announced
    · rw [← same]
      exact extended.grows.announced (consistent.outbox held earlier)
    · exact announced
  logs name entry member := by
    rcases extended.logs name entry member with earlier | announced
    · exact extended.grows.announced (consistent.logs name entry earlier)
    · exact announced
  applied id held := by
    rw [extended.ledger] at held
    obtain ⟨order, source, destination, named, answered, covered⟩ :=
      consistent.applied id held
    exact ⟨order, source, destination, named, answered,
      extended.covered order covered⟩

theorem Consistent.justified {world : World} {history : List LedgerEvent}
    (consistent : world.Consistent history) {id : String} {record : PaymentRecord}
    (found : world.book.records.get? id = some record) {status : PaymentStatus}
    (named : record.status = status.name) : world.Justified id status := by
  obtain ⟨written, same, justified⟩ := consistent.statuses id record found
  rw [named] at same
  rw [PaymentStatus.name_injective same]
  exact justified

/-- What a step keeps while the history of the ledger goes on by some events. -/
structure Keeps (before after : World) (history events : List LedgerEvent) :
    Prop where
  grows : before.Grows after
  consistent : after.Consistent (history ++ events)

theorem Extends.keeps {before after : World} {history : List LedgerEvent}
    (extended : before.Extends after) (consistent : before.Consistent history) :
    before.Keeps after history [] where
  grows := extended.grows
  consistent := by
    rw [List.append_nil]
    exact consistent.of_extends extended

end World

end Clearing
