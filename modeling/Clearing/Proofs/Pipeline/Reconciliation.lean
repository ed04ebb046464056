import Clearing.Proofs.Ledger.Settlements
import Clearing.Proofs.Pipeline.SteadyRuns
import Mathlib.Data.List.Perm.Basic
/-!
Nothing is lost and nothing is left over.  Once the outbox is empty and a group is
done with its topic, every payment has been settled, and the accounts are what the
completed payments of the book have made of them.
-/

namespace Clearing

/-- Nothing waits in the outbox, and a group is done with all that was published. -/
structure World.Drained (world : World) (group topic : String) : Prop where
  outbox : world.book.outbox.unpublished = []
  committed : ∀ partition < world.broker.partitions,
    (world.broker.committed? group topic partition).getD 0 =
      (world.broker.log ⟨topic, partition⟩).length

namespace PaymentBook

def completed (book : PaymentBook) : List PaymentRecord :=
  book.records.values.filter fun record =>
    record.status = PaymentStatus.completed.name

def creditedTo (book : PaymentBook) (id : String) : Rat :=
  (book.completed.map fun record =>
    if record.destination = id then record.amount.value else 0).sum

def debitedFrom (book : PaymentBook) (id : String) : Rat :=
  (book.completed.map fun record =>
    if record.source = id then record.amount.value else 0).sum

end PaymentBook

structure Motion where
  payment : String
  source : String
  destination : String
  amount : Rat

def PaymentRecord.motion (record : PaymentRecord) : Motion where
  payment := record.id
  source := record.source
  destination := record.destination
  amount := record.amount.value

def TransferOrder.motion (order : TransferOrder) : Motion where
  payment := order.id
  source := order.source
  destination := order.destination
  amount := order.amount.value

theorem PaymentRecord.Covers.motion_eq {record : PaymentRecord} {order : TransferOrder}
    (covers : record.Covers order) : record.motion = order.motion := by
  have amount := (Decimal.sameValue_iff_value_eq _ _).mp covers.amount
  unfold PaymentRecord.motion TransferOrder.motion
  rw [covers.id, covers.source, covers.destination, amount]

namespace World

variable {world : World} {topic group : String} {history : List LedgerEvent}

/-- With everything published and done, there is no payment that is not settled. -/
theorem isSettled_of_drained (orderly : world.Orderly topic)
    (drained : world.Drained group topic) {id : String} {record : PaymentRecord}
    (found : world.book.records.get? id = some record) : record.IsSettled := by
  obtain ⟨entry, member, topic_eq, event, decoded, named⟩ :=
    orderly.announced id (by rw [found]; rfl)
  have marked : entry.published = true := by
    have none := List.filter_eq_nil_iff.mp drained.outbox entry member
    simpa using none
  obtain ⟨logged, loggedMember, same⟩ := orderly.published entry member marked
  have inRange : partitionFor entry.message.key world.broker.partitions <
      world.broker.partitions :=
    Nat.mod_lt _ world.broker.partitions_pos
  have done := orderly.committed group
    ⟨topic, partitionFor entry.message.key world.broker.partitions⟩
  rw [drained.committed _ inRange] at done
  rw [topic_eq] at loggedMember
  obtain ⟨index, inside, present⟩ := List.mem_iff_getElem.mp loggedMember
  obtain ⟨other, otherPresent, resolved⟩ := done index (by omega)
  rw [List.getElem?_eq_getElem inside, present] at otherPresent
  cases otherPresent
  obtain ⟨read, settled, readDecoded, settledFound, isSettled⟩ := resolved
  rw [same, decoded] at readDecoded
  cases readDecoded
  rw [named, found] at settledFound
  cases settledFound
  exact isSettled

theorem id_eq_of_get? (consistent : world.Consistent history)
    (orderly : world.Orderly topic) {id : String} {record : PaymentRecord}
    (found : world.book.records.get? id = some record) : record.id = id := by
  obtain ⟨entry, member, _, event, decoded, named⟩ :=
    orderly.announced id (by rw [found]; rfl)
  obtain ⟨order, ⟨asked, askedDecoded, ordered, _⟩, held, heldFound, covers⟩ :=
    consistent.outbox entry member
  rw [decoded] at askedDecoded
  cases askedDecoded
  have same := (SettlementEvent.id_of_order?_eq_some ordered).trans named
  rw [same, found] at heldFound
  cases heldFound
  exact covers.id.trans same

theorem nodup_completed (consistent : world.Consistent history)
    (orderly : world.Orderly topic) : (world.book.completed.map PaymentRecord.motion).Nodup := by
  have ids : world.book.records.values.map PaymentRecord.id = world.book.records.keys := by
    unfold Table.values Table.keys
    rw [List.map_map]
    apply List.map_congr_left
    rintro ⟨id, record⟩ member
    exact id_eq_of_get? consistent orderly ((Table.mem_entries_iff _ _ _).mp member)
  apply List.Nodup.of_map Motion.payment
  rw [List.map_map]
  have sublist : (world.book.completed.map PaymentRecord.id).Sublist
      (world.book.records.values.map PaymentRecord.id) :=
    List.filter_sublist.map _
  rw [ids] at sublist
  exact world.book.records.distinct.sublist sublist

theorem mem_completed_iff (world : World) (record : PaymentRecord) :
    record ∈ world.book.completed ↔
      (∃ id, world.book.records.get? id = some record) ∧
        record.status = PaymentStatus.completed.name := by
  unfold PaymentBook.completed
  rw [List.mem_filter, Table.mem_values_iff, decide_eq_true_eq]

end World

section History

variable {world : World} {topic : String} {start : List LedgerEvent}
  {calls : List LedgerCall} (consistent : world.Consistent (start ++ calls.map .call))

include consistent

theorem ledger_eq_afterCalls :
    world.ledger = (Ledger.empty.after start).afterCalls calls := by
  rw [consistent.ledger, Ledger.after_append, Ledger.after_map_call]

theorem covers_of_settledOrders {order : TransferOrder}
    (settled : order ∈ (Ledger.empty.after start).settledOrders calls) :
    world.ledger.decisions.get? order.id = some .applied ∧
      ∃ record, world.book.records.get? order.id = some record ∧ record.Covers order := by
  have applied : world.ledger.decisions.get? order.id = some .applied := by
    rw [ledger_eq_afterCalls consistent, Ledger.applied_afterCalls_iff]
    exact .inr ⟨order, settled, rfl⟩
  obtain ⟨other, source, destination, same, answered, record, found, covers⟩ :=
    consistent.applied order.id applied
  obtain ⟨_, _, settledAnswer⟩ := Ledger.answered_of_settledOrders settled
  have equal := Ledger.eq_of_answered_applied answered settledAnswer same
  subst equal
  exact ⟨applied, record, found, covers⟩

/-- The completed payments are those of the settled orders, each of them once. -/
theorem perm_completed_settledOrders (orderly : world.Orderly topic)
    (undecided : ∀ id, (Ledger.empty.after start).decisions.get? id = none)
    (final : ∀ id record, world.book.records.get? id = some record → record.IsSettled) :
    (world.book.completed.map PaymentRecord.motion).Perm
      (((Ledger.empty.after start).settledOrders calls).map TransferOrder.motion) := by
  have distinct : (((Ledger.empty.after start).settledOrders calls).map
      TransferOrder.motion).Nodup := by
    apply List.Nodup.of_map Motion.payment
    rw [List.map_map]
    exact Ledger.nodup_settledOrders _ _
  rw [List.perm_ext_iff_of_nodup (World.nodup_completed consistent orderly) distinct]
  intro motion
  constructor
  · intro member
    obtain ⟨record, completed, rfl⟩ := List.mem_map.mp member
    obtain ⟨⟨id, found⟩, named⟩ := (world.mem_completed_iff record).mp completed
    have applied : world.ledger.decisions.get? id = some .applied :=
      consistent.justified found named
    rw [ledger_eq_afterCalls consistent, Ledger.applied_afterCalls_iff, undecided] at applied
    obtain ⟨order, settled, rfl⟩ := applied.resolve_left (by simp)
    obtain ⟨_, held, heldFound, covers⟩ := covers_of_settledOrders consistent settled
    rw [found] at heldFound
    cases heldFound
    exact List.mem_map.mpr ⟨order, settled, covers.motion_eq.symm⟩
  · intro member
    obtain ⟨order, settled, rfl⟩ := List.mem_map.mp member
    obtain ⟨applied, record, found, covers⟩ := covers_of_settledOrders consistent settled
    obtain ⟨status, terminal, named⟩ :=
      PaymentRecord.isSettled_iff.mp (final order.id record found)
    have justified := consistent.justified found named
    cases status with
    | pending => cases terminal
    | failed =>
        obtain ⟨code, rejected⟩ := justified
        rw [applied] at rejected
        cases rejected
    | completed =>
        refine List.mem_map.mpr ⟨record, ?_, covers.motion_eq⟩
        exact (world.mem_completed_iff record).mpr ⟨⟨order.id, found⟩, named⟩

end History

theorem PaymentBook.totals_eq_of_perm {book : PaymentBook} {orders : List TransferOrder}
    (same : (book.completed.map PaymentRecord.motion).Perm
      (orders.map TransferOrder.motion)) (id : String) :
    book.creditedTo id = Clearing.creditedTo orders id ∧
      book.debitedFrom id = Clearing.debitedFrom orders id := by
  constructor
  · have totals := (same.map fun motion : Motion =>
      if motion.destination = id then motion.amount else 0).sum_eq
    rw [List.map_map, List.map_map] at totals
    exact totals
  · have totals := (same.map fun motion : Motion =>
      if motion.source = id then motion.amount else 0).sum_eq
    rw [List.map_map, List.map_map] at totals
    exact totals

namespace Ledger

theorem solvent_after_openings {ledger : Ledger} (solvent : ledger.Solvent)
    (openings : List Opening) : (ledger.after (openings.map .openAccount)).Solvent := by
  induction openings generalizing ledger with
  | nil => exact solvent
  | cons opening rest inductionHypothesis =>
      exact inductionHypothesis (solvent.openAccount opening)

theorem decisions_after_openings (ledger : Ledger) (openings : List Opening) :
    (ledger.after (openings.map .openAccount)).decisions = ledger.decisions := by
  induction openings generalizing ledger with
  | nil => rfl
  | cons opening rest inductionHypothesis => exact inductionHypothesis _

end Ledger

namespace Pipeline

/--
However requests, relays and members are interleaved, and whatever of them is lost
on the way: when nothing waits in the outbox and a group is done with everything
that was published, every payment was completed or has failed, and every account
holds what it was opened with, with what completed payments have brought to it
and without what they have taken from it.
-/
theorem nothing_lost (settings : IntakeSettings) (outbox : settings.dispatch = .outbox)
    (partitions : Int) (openings : List Opening) (events : List PipelineEvent)
    (steady : ∀ event ∈ events, event.Steady settings) (group : String)
    (drained : ((opened partitions openings).after events).world.Drained group
      settings.topic) :
    let world := ((opened partitions openings).after events).world
    let start := Ledger.empty.after (openings.map .openAccount)
    (∀ id record, world.book.records.get? id = some record →
      record.status = PaymentStatus.completed.name ∨
        record.status = PaymentStatus.failed.name) ∧
    world.ledger.accounts.keys = start.accounts.keys ∧
    ∀ id account, world.ledger.account? id = some account →
      ∃ before, start.account? id = some before ∧
        account.balance.value =
          before.balance.value + world.book.creditedTo id - world.book.debitedFrom id := by
  intro world start
  have orderly := (orderly_opened settings partitions openings).after outbox steady
  obtain ⟨calls, history⟩ := orderly.history
  have consistent := orderly.sound.consistent
  rw [history] at consistent
  have final (id : String) (record : PaymentRecord)
      (found : world.book.records.get? id = some record) : record.IsSettled :=
    World.isSettled_of_drained orderly.world drained found
  have undecided (id : String) : start.decisions.get? id = none := by
    rw [Ledger.decisions_after_openings]
    exact Table.get?_empty id
  have solvent : start.Solvent :=
    Ledger.solvent_after_openings Ledger.solvent_empty openings
  have performed : world.ledger = start.afterCalls calls := ledger_eq_afterCalls consistent
  have keys : world.ledger.accounts.keys = start.accounts.keys := by
    rw [performed]
    exact (Ledger.keys_total_afterCalls solvent calls "").1
  refine ⟨final, keys, fun id account found => ?_⟩
  have known : (start.account? id).isSome := by
    apply (Table.mem_keys_iff _ _).mp
    rw [← keys]
    apply (Table.mem_keys_iff _ _).mpr
    change (world.ledger.account? id).isSome
    rw [found]
    rfl
  obtain ⟨before, opened⟩ := Option.isSome_iff_exists.mp known
  obtain ⟨later, laterFound, follows⟩ := Ledger.follows_afterCalls solvent calls opened
  rw [← performed, found] at laterFound
  cases laterFound
  have same := perm_completed_settledOrders consistent orderly.world undecided final
  obtain ⟨credited, debited⟩ := PaymentBook.totals_eq_of_perm same id
  refine ⟨before, opened, ?_⟩
  rw [credited, debited, follows.balance, (solvent id before opened).id_eq]

/-- The accounts of the rent, with balances that are written with different scales. -/
def rentAccounts : List Opening :=
  [{ id := rentRequest.request.source
     currency := .dollar
     balance := { coefficient := 700000000000, scale := 9 } },
    { id := rentRequest.request.destination
      currency := .dollar
      balance := { coefficient := 5000000000, scale := 10 } }]

def rentIntake : IntakeSettings where
  dispatch := .outbox
  topic := "settlements"
  lifetime := 10 ^ 9

/--
A relay is lost before it has marked what it published, so that the event is
published twice, and a member is lost as soon as it has moved the money.
-/
def publishedTwice : List PipelineEvent :=
  [.start (.request rentIntake rentRequest), .step 0, .step 0, .step 0,
    .start (.relay 5), .step 1, .step 1, .lose 1,
    .start (.relay 5), .step 1, .step 1, .step 1,
    .start (.member "ledger" "settlements"), .step 2, .step 2, .lose 2,
    .start (.member "ledger" "settlements"), .step 2, .step 2, .step 2, .step 2,
    .step 2, .step 2, .step 2, .step 2]

theorem nothing_lost_publishedTwice :
    let world := ((opened 1 rentAccounts).after publishedTwice).world
    world.Drained "ledger" "settlements" ∧ world.broker.messageCount "settlements" = 2 ∧
      (∀ id record, world.book.records.get? id = some record →
        record.status = PaymentStatus.completed.name ∨
          record.status = PaymentStatus.failed.name) ∧
      ∀ id account, world.ledger.account? id = some account →
        ∃ before, (Ledger.empty.after (rentAccounts.map .openAccount)).account? id =
            some before ∧
          account.balance.value = before.balance.value + world.book.creditedTo id -
            world.book.debitedFrom id := by
  have steady : ∀ event ∈ publishedTwice, event.Steady rentIntake := by
    decide +kernel
  have run :
      let world := ((opened 1 rentAccounts).after publishedTwice).world
      world.book.outbox.unpublished = [] ∧
        (∀ partition < world.broker.partitions,
          (world.broker.committed? "ledger" "settlements" partition).getD 0 =
            (world.broker.log ⟨"settlements", partition⟩).length) ∧
        world.broker.messageCount "settlements" = 2 := by
    decide +kernel
  obtain ⟨unpublished, committed, published⟩ := run
  have drained : ((opened 1 rentAccounts).after publishedTwice).world.Drained "ledger"
      rentIntake.topic :=
    ⟨unpublished, committed⟩
  obtain ⟨settled, _, balances⟩ :=
    nothing_lost rentIntake rfl 1 rentAccounts publishedTwice steady "ledger" drained
  exact ⟨drained, published, settled, balances⟩

end Pipeline

end Clearing
