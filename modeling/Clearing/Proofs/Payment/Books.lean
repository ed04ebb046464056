import Clearing.Payment.Book
import Clearing.Proofs.Table
/-!
What can become of a payment book.  A payment is added or refused in one of five
ways and its status is changed or not in one of six; no payment is ever removed,
none changes but for its status, and no two have one idempotency key.
-/

namespace Clearing

theorem PaymentStatus.ofName?_eq_some_iff (name : String) (status : PaymentStatus) :
    ofName? name = some status ↔ name = status.name := by
  constructor
  · intro found
    have same := List.find?_some found
    exact (eq_of_beq same).symm
  · rintro rfl
    exact ofName?_name status

theorem PaymentStatus.name_injective {first second : PaymentStatus}
    (same : first.name = second.name) : first = second := by
  apply Option.some.inj
  rw [← ofName?_name first, same, ofName?_name]

namespace PaymentRecord

def IsSettled (record : PaymentRecord) : Prop :=
  record.status = "COMPLETED" ∨ record.status = "FAILED"

/-- What never changes of a payment is the same in two records. -/
structure SamePayment (before after : PaymentRecord) : Prop where
  id_eq : after.id = before.id
  source_eq : after.source = before.source
  destination_eq : after.destination = before.destination
  amount_eq : after.amount = before.amount
  currency_eq : after.currency = before.currency
  idempotencyKey_eq : after.idempotencyKey = before.idempotencyKey
  created_eq : after.created = before.created

/-- The same payment, which may have been settled since then. -/
inductive Continues (before : PaymentRecord) : PaymentRecord → Prop where
  | same : Continues before before
  | settled (after : PaymentRecord) :
      before.SamePayment after →
      before.status = "PENDING" →
      after.IsSettled →
      after.version = before.version + 1 →
      Continues before after

/-- The record of an accepted payment, as it is until the payment is settled. -/
structure PendingFor (record : PaymentRecord) (payment : ValidPayment)
    (moment : Timestamp) : Prop where
  id_eq : record.id = payment.id
  source_eq : record.source = payment.source.text
  destination_eq : record.destination = payment.destination.text
  amount_eq : record.amount = payment.amount.value
  currency_eq : record.currency = payment.currency.code
  status_eq : record.status = "PENDING"
  idempotencyKey_eq : record.idempotencyKey = payment.idempotencyKey
  version_eq : record.version = 1
  created_eq : record.created = moment
  updated_eq : record.updated = moment

theorem pendingFor_pending (payment : ValidPayment) (moment : Timestamp) :
    (pending payment moment).PendingFor payment moment := by
  constructor <;> rfl

theorem isSettled_iff {record : PaymentRecord} :
    record.IsSettled ↔
      ∃ status : PaymentStatus, status.isTerminal = true ∧ record.status = status.name := by
  constructor
  · rintro (completed | failed)
    · exact ⟨.completed, rfl, completed⟩
    · exact ⟨.failed, rfl, failed⟩
  · rintro ⟨status, terminal, named⟩
    cases status with
    | pending => cases terminal
    | completed => exact .inl named
    | failed => exact .inr named

theorem not_isSettled_of_pending {record : PaymentRecord}
    (pending : record.status = "PENDING") : ¬ record.IsSettled := by
  rw [IsSettled, pending]
  decide

theorem samePayment_withStatus (record : PaymentRecord) (status : PaymentStatus)
    (moment : Timestamp) :
    record.SamePayment (PaymentBook.withStatus record status moment) := by
  constructor <;> rfl

theorem continues_withStatus {record : PaymentRecord} {status : PaymentStatus}
    (pending : record.status = "PENDING") (terminal : status.isTerminal = true)
    (moment : Timestamp) :
    record.Continues (PaymentBook.withStatus record status moment) :=
  .settled _ (record.samePayment_withStatus status moment) pending
    (isSettled_iff.mpr ⟨status, terminal, rfl⟩) rfl

theorem Continues.eq_of_isSettled {before after : PaymentRecord}
    (continues : before.Continues after) (settled : before.IsSettled) :
    after = before := by
  cases continues with
  | same => rfl
  | settled after same pending _ _ => exact absurd settled (not_isSettled_of_pending pending)

theorem Continues.isSettled {before after : PaymentRecord}
    (continues : before.Continues after) (settled : before.IsSettled) :
    after.IsSettled := by
  rw [continues.eq_of_isSettled settled]
  exact settled

theorem Continues.trans {first second third : PaymentRecord}
    (early : first.Continues second) (late : second.Continues third) :
    first.Continues third := by
  cases early with
  | same => exact late
  | settled second same pending settled version =>
      rw [late.eq_of_isSettled settled]
      exact .settled second same pending settled version

theorem Continues.samePayment {before after : PaymentRecord}
    (continues : before.Continues after) : before.SamePayment after := by
  cases continues with
  | same => constructor <;> rfl
  | settled _ same _ _ _ => exact same

end PaymentRecord

namespace PaymentBook

/-- What adding a payment comes to: an answer and the book after it. -/
inductive InsertCase (book : PaymentBook) (record : PaymentRecord)
    (message : Option OutboundMessage) :
    Except PaymentError InsertOutcome → PaymentBook → Prop where
  | offline :
      book.online = false →
      InsertCase book record message (.error .database) book
  | conflict (held : PaymentRecord) :
      book.online = true →
      book.records.get? record.id = some held →
      ¬ held.SameTransfer record →
      InsertCase book record message (.error (.conflict record.id)) book
  | duplicate (held : PaymentRecord) :
      book.online = true →
      book.records.get? record.id = some held →
      held.SameTransfer record →
      InsertCase book record message (.ok .duplicate) book
  | keyTaken (owner : PaymentRecord) :
      book.online = true →
      book.records.get? record.id = none →
      book.owner? record.idempotencyKey = some owner →
      InsertCase book record message (.ok (.keyTaken owner.id)) book
  | inserted :
      book.online = true →
      book.records.get? record.id = none →
      book.owner? record.idempotencyKey = none →
      InsertCase book record message (.ok .inserted) (book.store record message)

theorem insertCase (book : PaymentBook) (record : PaymentRecord)
    (message : Option OutboundMessage) :
    InsertCase book record message (book.insert record message).1
      (book.insert record message).2 := by
  rw [insert]
  by_cases available : book.online = true
  · rw [if_pos available]
    cases found : book.records.get? record.id with
    | some held =>
        by_cases same : held.SameTransfer record
        · simp only [if_pos same]
          exact .duplicate held available found same
        · simp only [if_neg same]
          exact .conflict held available found same
    | none =>
        dsimp only
        cases owned : book.owner? record.idempotencyKey with
        | some owner => exact .keyTaken owner available found owned
        | none => exact .inserted available found owned
  · rw [if_neg available]
    exact .offline (by simpa using available)

/-- What a change of status comes to: an answer and the book after it. -/
inductive UpdateCase (book : PaymentBook) (id : String) (target : PaymentStatus)
    (now : Timestamp) : Except PaymentError Bool → PaymentBook → Prop where
  | offline :
      book.online = false →
      UpdateCase book id target now (.error .database) book
  | missing :
      book.online = true →
      book.records.get? id = none →
      UpdateCase book id target now (.error (.notFound id)) book
  | corrupt (record : PaymentRecord) (error : PaymentError) :
      book.online = true →
      book.records.get? id = some record →
      PaymentStatus.ofStored id record.status = .error error →
      UpdateCase book id target now (.error error) book
  | settled (record : PaymentRecord) (error : TransitionError) :
      book.online = true →
      book.records.get? id = some record →
      record.IsSettled →
      UpdateCase book id target now (.error (.transition error)) book
  | unchanged (record : PaymentRecord) :
      book.online = true →
      book.records.get? id = some record →
      record.status = PaymentStatus.pending.name →
      target = .pending →
      UpdateCase book id target now (.ok false) book
  | moved (record : PaymentRecord) :
      book.online = true →
      book.records.get? id = some record →
      record.status = PaymentStatus.pending.name →
      target.isTerminal = true →
      UpdateCase book id target now (.ok true)
        { book with records := book.records.insert id (withStatus record target now) }

theorem ofStored_eq_ok {id stored : String} {status : PaymentStatus}
    (known : PaymentStatus.ofStored id stored = .ok status) : stored = status.name := by
  rw [PaymentStatus.ofStored] at known
  split at known
  · rename_i found
    cases known
    exact (PaymentStatus.ofName?_eq_some_iff _ _).mp found
  · cases known

theorem updateCase (book : PaymentBook) (id : String) (target : PaymentStatus)
    (now : Timestamp) :
    UpdateCase book id target now (book.updateStatus id target now).1
      (book.updateStatus id target now).2 := by
  rw [updateStatus]
  by_cases available : book.online = true
  · rw [if_pos available]
    cases found : book.records.get? id with
    | none => exact .missing available found
    | some record =>
        dsimp only
        cases known : PaymentStatus.ofStored id record.status with
        | error error => exact .corrupt record error available found known
        | ok current =>
            have named := ofStored_eq_ok known
            cases current with
            | pending =>
                cases target with
                | pending => exact .unchanged record available found named rfl
                | completed | failed => exact .moved record available found named rfl
            | completed => exact .settled record _ available found (.inl named)
            | failed => exact .settled record _ available found (.inr named)
  · rw [if_neg available]
    exact .offline (by simpa using available)

theorem get?_store (book : PaymentBook) (record : PaymentRecord)
    (message : Option OutboundMessage) (id : String) :
    (book.store record message).records.get? id =
      if id = record.id then some record else book.records.get? id :=
  Table.get?_insert _ _ _ _

theorem get?_store_of_get? {book : PaymentBook} {record : PaymentRecord}
    (fresh : book.records.get? record.id = none) (message : Option OutboundMessage)
    {id : String} {held : PaymentRecord} (found : book.records.get? id = some held) :
    (book.store record message).records.get? id = some held := by
  have different : id ≠ record.id := by
    rintro rfl
    rw [fresh] at found
    cases found
  rw [get?_store, if_neg different]
  exact found

theorem InsertCase.get?_eq_some {book after : PaymentBook} {record : PaymentRecord}
    {message : Option OutboundMessage} {outcome : Except PaymentError InsertOutcome}
    (inserted : book.InsertCase record message outcome after) {id : String}
    {held : PaymentRecord} (found : book.records.get? id = some held) :
    after.records.get? id = some held := by
  cases inserted with
  | offline _ | conflict _ _ _ _ | duplicate _ _ _ _ | keyTaken _ _ _ _ => exact found
  | inserted _ fresh _ => exact get?_store_of_get? fresh message found

theorem UpdateCase.exists_continues {book after : PaymentBook} {id other : String}
    {target : PaymentStatus} {now : Timestamp} {answer : Except PaymentError Bool}
    (updated : book.UpdateCase other target now answer after) {record : PaymentRecord}
    (found : book.records.get? id = some record) :
    ∃ later, after.records.get? id = some later ∧ record.Continues later := by
  cases updated with
  | offline _ | missing _ _ | corrupt _ _ _ _ _ | settled _ _ _ _ _
  | unchanged _ _ _ _ _ => exact ⟨record, found, .same⟩
  | moved held _ heldFound pending terminal =>
      rw [Table.get?_insert]
      split
      · rename_i same
        rw [same, heldFound] at found
        cases found
        exact ⟨_, rfl, PaymentRecord.continues_withStatus pending terminal now⟩
      · exact ⟨record, found, .same⟩

structure Keyed (book : PaymentBook) : Prop where
  id_eq : ∀ id record, book.records.get? id = some record → record.id = id
  key_unique : ∀ first second one other,
    book.records.get? first = some one → book.records.get? second = some other →
      one.idempotencyKey = other.idempotencyKey → first = second

theorem keyed_empty : empty.Keyed where
  id_eq id record found := by cases found
  key_unique first second one other found := by cases found

theorem owner?_eq_some {book : PaymentBook} {key : String} {owner : PaymentRecord}
    (owned : book.owner? key = some owner) :
    (∃ id, book.records.get? id = some owner) ∧ owner.idempotencyKey = key := by
  constructor
  · exact (Table.mem_values_iff _ _).mp (List.mem_of_find?_eq_some owned)
  · have same := List.find?_some owned
    exact eq_of_beq same

theorem idempotencyKey_ne_of_owner?_eq_none {book : PaymentBook} {key : String}
    (free : book.owner? key = none) {id : String} {record : PaymentRecord}
    (found : book.records.get? id = some record) : record.idempotencyKey ≠ key := by
  intro same
  have member : record ∈ book.records.values := (Table.mem_values_iff _ _).mpr ⟨id, found⟩
  have different := List.find?_eq_none.mp free record member
  exact different (beq_iff_eq.mpr same)

theorem Keyed.store {book : PaymentBook} (keyed : book.Keyed) {record : PaymentRecord}
    (free : book.owner? record.idempotencyKey = none)
    (message : Option OutboundMessage) : (book.store record message).Keyed := by
  constructor
  · intro id held found
    rw [get?_store] at found
    split at found
    · rename_i same
      cases found
      exact same.symm
    · exact keyed.id_eq id held found
  · intro first second one other oneFound otherFound same
    rw [get?_store] at oneFound otherFound
    split at oneFound <;> split at otherFound
    · rename_i firstNew secondNew
      rw [firstNew, secondNew]
    · cases oneFound
      exact absurd same.symm (idempotencyKey_ne_of_owner?_eq_none free otherFound)
    · cases otherFound
      exact absurd same (idempotencyKey_ne_of_owner?_eq_none free oneFound)
    · exact keyed.key_unique first second one other oneFound otherFound same

theorem Keyed.insert {book after : PaymentBook} (keyed : book.Keyed)
    {record : PaymentRecord} {message : Option OutboundMessage}
    {outcome : Except PaymentError InsertOutcome}
    (inserted : book.InsertCase record message outcome after) : after.Keyed := by
  cases inserted with
  | offline _ | conflict _ _ _ _ | duplicate _ _ _ _ | keyTaken _ _ _ _ => exact keyed
  | inserted _ _ free => exact keyed.store free message

end PaymentBook

end Clearing
