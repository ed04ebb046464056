import Clearing.Proofs.Payment.Intake
import Clearing.Proofs.Pipeline.Consistency
import Clearing.Proofs.World.Accumulation
/-!
What the services do to the stores, one operation after the other.  The book
and the broker only gain what is announced and justified; the ledger moves
money only for payments that the book holds.
-/

namespace Clearing

structure Prepared (record : PaymentRecord) (message : OutboundMessage) : Prop where
  pending : record.status = PaymentStatus.pending.name
  asked : ∃ order : TransferOrder, order.AskedBy message.payload ∧
    record.Covers order

/-- The order that settles a payment, for the amount as it is written. -/
def ValidPayment.order (payment : ValidPayment) : TransferOrder where
  id := payment.id
  source := payment.source.text
  destination := payment.destination.text
  amount := payment.amount.value
  currency := payment.currency

theorem ValidPayment.order?_ofPayment (payment : ValidPayment) (moment : Timestamp) :
    (SettlementEvent.ofPayment payment moment).order? = some payment.order :=
  congrArg (Option.map (SettlementEvent.ofPayment payment moment).order)
    (Currency.parse?_code payment.currency)

theorem PaymentRequest.check_order_of_validate
    {request : PaymentRequest} {payment : ValidPayment}
    (valid : request.validate = .ok payment) : payment.order.check = .ok () := by
  obtain ⟨visible, different⟩ := of_validate_eq_ok valid
  rw [TransferOrder.check_eq_ok_iff, Amount.exists_ofDecimal_eq_ok_iff]
  refine ⟨visible, ⟨payment.amount.positive, ?_, payment.amount.value_le⟩, different⟩
  rw [← payment.currency.minorUnits_eq]
  exact payment.amount.decimals_le

theorem ValidPayment.askedBy_settlement {payment : ValidPayment}
    (shape : payment.order.check = .ok ()) {moment : Timestamp}
    (inRange : Date.YearInRange moment.date.year) (topic : String) (context : TraceContext) :
    payment.order.AskedBy
      (OutboundMessage.settlement topic (.ofPayment payment moment) context).payload :=
  ⟨.ofPayment payment moment, SettlementEvent.decode_ofPayment inRange,
    payment.order?_ofPayment moment, shape⟩

theorem prepared_of_validate
    {request : PaymentRequest} {payment : ValidPayment}
    (valid : request.validate = .ok payment) {moment : Timestamp}
    (inRange : Date.YearInRange moment.date.year) (topic : String)
    (context : TraceContext) :
    Prepared (.pending payment moment)
      (.settlement topic (.ofPayment payment moment) context) where
  pending := rfl
  asked := by
    have shape := PaymentRequest.check_order_of_validate valid
    refine ⟨payment.order, payment.askedBy_settlement shape inRange topic context,
      rfl, rfl, rfl, ?_, rfl⟩
    exact (Decimal.sameValue_iff_value_eq _ _).mpr rfl

namespace PaymentBook

theorem mem_entries_store
    {book : PaymentBook} {record : PaymentRecord} {message : Option OutboundMessage}
    {entry : OutboxEntry}
    (member : entry ∈ (book.store record message).outbox.entries) :
    entry ∈ book.outbox.entries ∨ message = some entry.message := by
  cases message with
  | none => exact .inl member
  | some message =>
      rw [store] at member
      simp only [Outbox.push, List.mem_append, List.mem_singleton] at member
      rcases member with held | rfl
      · exact .inl held
      · exact .inr rfl

end PaymentBook

namespace World

variable (world : World)

theorem announced_store
    {record : PaymentRecord} {message : OutboundMessage}
    (prepared : Prepared record message) (stored : Option OutboundMessage) :
    { world with book := world.book.store record stored }.Announced
      message.payload := by
  obtain ⟨order, asked, covers⟩ := prepared.asked
  refine ⟨order, asked, record, ?_, covers⟩
  exact (PaymentBook.get?_store _ _ _ _).trans (if_pos covers.id.symm)

theorem extends_store
    {record : PaymentRecord} {message : OutboundMessage}
    (prepared : Prepared record message)
    (fresh : world.book.records.get? record.id = none)
    {stored : Option OutboundMessage}
    (own : ∀ other, stored = some other → other = message) :
    world.Extends { world with book := world.book.store record stored } where
  inRange inRange := inRange
  ledger := rfl
  covered order covered := by
    obtain ⟨held, found, covers⟩ := covered
    refine ⟨held, (PaymentBook.get?_store _ _ _ _).trans ?_, covers⟩
    rw [if_neg]
    · exact found
    · intro same
      rw [same, fresh] at found
      cases found
  statuses id other found := by
    rw [PaymentBook.get?_store] at found
    split at found
    · cases found
      exact .inr ⟨.pending, prepared.pending, trivial⟩
    · exact .inl found
  outbox entry member := by
    rcases PaymentBook.mem_entries_store member with held | new
    · exact .inl ⟨entry, held, rfl⟩
    · rw [own _ new]
      exact .inr (announced_store world prepared stored)
  logs name entry member := .inl member

theorem extends_insert
    {record : PaymentRecord} {message : OutboundMessage}
    (prepared : Prepared record message) {stored : Option OutboundMessage}
    (own : ∀ other, stored = some other → other = message)
    {outcome : Except PaymentError InsertOutcome} {book : PaymentBook}
    (inserted : world.book.InsertCase record stored outcome book) :
    world.Extends { world with book := book } ∧
      (outcome = .ok .inserted ∨ outcome = .ok .duplicate →
        { world with book := book }.Announced message.payload) := by
  cases inserted with
  | offline _ | conflict _ _ _ _ | keyTaken _ _ _ _ =>
      exact ⟨.refl world, by simp⟩
  | duplicate held _ found same =>
      refine ⟨.refl world, fun _ => ?_⟩
      obtain ⟨order, asked, covers⟩ := prepared.asked
      refine ⟨order, asked, held, ?_, .of_sameTransfer same covers⟩
      rw [← covers.id]
      exact found
  | inserted _ fresh _ =>
      exact ⟨extends_store world prepared fresh own, fun _ =>
        announced_store world prepared stored⟩

theorem extends_append
    {world : World} {message : OutboundMessage}
    (announced : world.Announced message.payload) :
    world.Extends { world with broker := (world.broker.append message).2 } where
  inRange inRange := inRange
  ledger := rfl
  covered _ covered := covered
  statuses _ _ found := .inl found
  outbox entry member := .inl ⟨entry, member, rfl⟩
  logs name entry member := by
    simp only [Broker.log_append] at member
    split at member
    · rcases List.mem_append.mp member with held | new
      · exact .inl held
      · rw [List.mem_singleton.mp new]
        exact .inr announced
    · exact .inl member

/-- A payment moves to a status that the ledger has decided on. -/
theorem extends_updateStatus
    {world : World} {id : String} {status : PaymentStatus}
    (justified : world.Justified id status) :
    world.Extends (world.updateStatus id status).2 := by
  obtain ⟨answer, book, updated, after⟩ := world.exists_updateCase id status
  rw [after]
  cases updated with
  | offline _ | missing _ _ | corrupt _ _ _ _ _ | settled _ _ _ _ _
  | unchanged _ _ _ _ _ => exact .refl world
  | moved held _ found pending terminal =>
      refine ⟨fun inRange => inRange, rfl, fun order covered => ?_,
        fun other record present => ?_, fun entry member => .inl ⟨entry, member, rfl⟩,
        fun name entry => .inl⟩
      · obtain ⟨record, same, covers⟩ := covered
        by_cases named : order.id = id
        · rw [named, found] at same
          cases same
          refine ⟨PaymentBook.withStatus held status world.moment, ?_,
            (PaymentRecord.continues_withStatus pending terminal world.moment).covers covers⟩
          exact (Table.get?_insert _ _ _ _).trans (if_pos named)
        · refine ⟨record, ?_, covers⟩
          exact (Table.get?_insert _ _ _ _).trans ((if_neg named).trans same)
      · rw [Table.get?_insert] at present
        split at present
        · rename_i named
          cases present
          exact .inr ⟨status, rfl, named ▸ justified⟩
        · exact .inl present

theorem extends_pollOutbox (limit : Nat) :
    world.Extends (world.pollOutbox limit).2 :=
  .of_eq rfl rfl rfl rfl rfl

theorem extends_markPublished (id : Nat) :
    world.Extends (world.markPublished id) := by
  refine .of_same rfl rfl rfl (fun entry member => ?_) rfl
  obtain ⟨held, earlier, rfl⟩ := List.mem_map.mp member
  refine ⟨held, earlier, ?_⟩
  split <;> rfl

theorem extends_commit (group : String) (message : InboundMessage) :
    world.Extends (world.commit group message).2 := by
  rw [commit]
  split
  · exact .refl world
  · exact .of_eq rfl rfl rfl rfl rfl

theorem extends_withStore (store : Store) :
    world.Extends { world with store := store } :=
  .of_eq rfl rfl rfl rfl rfl

theorem extends_dropBalance (account : String) :
    world.Extends (world.dropBalance account).2 := by
  rw [dropBalance, cacheDelete]
  split
  · exact .refl world
  · exact extends_withStore world _

theorem grows_withLedger (events : List LedgerEvent) :
    world.Grows { world with ledger := world.ledger.after events } where
  covered _ covered := covered
  decided _ _ held := Ledger.decision_after held events

theorem Consistent.withLedger {world : World} {history events : List LedgerEvent}
    (consistent : world.Consistent history)
    (applied : ∀ id,
      (world.ledger.after events).decisions.get? id = some .applied →
      world.ledger.decisions.get? id = some .applied ∨
        ∃ order source destination, order.id = id ∧
          Ledger.Answered (history ++ events) order
            (.ok (.applied source destination)) ∧
          world.Covered order) :
    ({ world with ledger := world.ledger.after events } : World).Consistent
      (history ++ events) := by
  have grows := world.grows_withLedger events
  refine ⟨consistent.inRange, ?_, ?_, ?_, ?_, ?_⟩
  · rw [Ledger.after_append, ← consistent.ledger]
  · intro id record found
    obtain ⟨status, named, justified⟩ := consistent.statuses id record found
    exact ⟨status, named, grows.justified justified⟩
  · intro entry member
    exact grows.announced (consistent.outbox entry member)
  · intro name entry member
    exact grows.announced (consistent.logs name entry member)
  · intro id held
    rcases applied id held with found | new
    · obtain ⟨order, source, destination, named, answered, covered⟩ :=
        consistent.applied id found
      exact ⟨order, source, destination, named, answered.append events, covered⟩
    · exact new

theorem Consistent.transfer {world : World} {history : List LedgerEvent}
    (consistent : world.Consistent history) {order : TransferOrder}
    (covered : world.Covered order) :
    (world.transfer order).2.Consistent (history ++ [.call (.transfer order)]) := by
  change ({ world with
    ledger := world.ledger.after [.call (.transfer order)] } : World).Consistent _
  apply consistent.withLedger
  intro id held
  rcases asked : world.ledger.transfer order with ⟨answer, after⟩
  have performed : world.ledger.after [.call (.transfer order)] = after :=
    congrArg Prod.snd asked
  have decided : after.decisions.get? id = some .applied := performed ▸ held
  rcases (Ledger.decision_transfer_iff asked id .applied).mp decided with
    found | ⟨named, _, _, decides⟩
  · exact .inl found
  · generalize applied : Decision.applied = decision at decides
    cases decides with
    | refused error refusal => cases applied
    | applied source destination =>
        refine .inr ⟨order, source, destination, named, ⟨history, [], rfl, ?_⟩,
          covered⟩
        rw [← consistent.ledger, asked]

theorem decisions_after_ledgerEvents (ledger : Ledger) (disturbance : Disturbance) :
    (ledger.after disturbance.ledgerEvents).decisions = ledger.decisions := by
  cases disturbance <;> rfl

theorem extends_disturb (disturbance : Disturbance) :
    world.Extends
      { world.disturb disturbance with ledger := world.ledger } := by
  cases disturbance with
  | setClock now moment inRange =>
      refine ⟨fun _ => inRange, rfl, fun _ => id, fun _ _ => .inl,
        fun entry member => .inl ⟨entry, member, rfl⟩, fun _ _ => .inl⟩
  | openAccount opening | setLedger online | setBook online | setBroker outage
  | setFaults faults | setCache store =>
      exact .of_eq rfl rfl rfl rfl rfl

theorem keeps_disturb {world : World} {history : List LedgerEvent}
    (consistent : world.Consistent history) (disturbance : Disturbance) :
    world.Keeps (world.disturb disturbance) history disturbance.ledgerEvents := by
  have extended := world.extends_disturb disturbance
  have same : world.disturb disturbance =
      { world.disturb disturbance with
        ledger := world.ledger.after disturbance.ledgerEvents } := by
    rw [← ledger_disturb]
  rw [same]
  refine ⟨extended.grows.trans (grows_withLedger _ disturbance.ledgerEvents), ?_⟩
  refine (consistent.of_extends extended).withLedger fun id held => .inl ?_
  rw [← decisions_after_ledgerEvents]
  exact held

end World

end Clearing
