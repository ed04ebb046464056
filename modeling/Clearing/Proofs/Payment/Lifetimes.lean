import Clearing.Proofs.Payment.Correspondence
/-!
The life of a payment in the book.  It is stored as pending, it may be settled once,
and from then on it stays as it is.  Nothing else ever happens to it, whatever else the
book is asked for, and a call that is refused leaves no trace.
-/

namespace Clearing

/-- A payment that is pending in its first version, or settled in its second. -/
inductive PaymentRecord.Staged (record : PaymentRecord) : Prop where
  | pending :
      record.status = "PENDING" →
      record.version = 1 →
      Staged record
  | settled :
      record.IsSettled →
      record.version = 2 →
      Staged record

theorem PaymentRecord.Staged.version_eq_one {record : PaymentRecord}
    (staged : record.Staged) (pending : record.status = "PENDING") :
    record.version = 1 := by
  cases staged with
  | pending _ version => exact version
  | settled settled _ => exact absurd settled (not_isSettled_of_pending pending)

inductive BookEvent where
  /-- A payment that was accepted is stored, with a message or without. -/
  | insert (payment : ValidPayment) (moment : Timestamp) (message : Option OutboundMessage)
  | updateStatus (id : String) (target : PaymentStatus) (moment : Timestamp)
  /-- The database is lost or comes back. -/
  | setOnline (online : Bool)

namespace PaymentBook

def apply (book : PaymentBook) : BookEvent → PaymentBook
  | .insert payment moment message => (book.insert (.pending payment moment) message).2
  | .updateStatus id target moment => (book.updateStatus id target moment).2
  | .setOnline online => { book with online := online }

def after (book : PaymentBook) (events : List BookEvent) : PaymentBook :=
  events.foldl apply book

variable {book : PaymentBook}

theorem insert_of_ne_inserted {record : PaymentRecord} {message : Option OutboundMessage}
    (refused : (book.insert record message).1 ≠ .ok .inserted) :
    (book.insert record message).2 = book := by
  have taken := book.insertCase record message
  generalize book.insert record message = result at taken refused
  rcases result with ⟨outcome, after⟩
  cases taken with
  | offline _ | conflict _ _ _ _ | duplicate _ _ _ _ | keyTaken _ _ _ _ => rfl
  | inserted _ _ _ => exact absurd rfl refused

theorem updateStatus_of_ne_true {id : String} {target : PaymentStatus} {moment : Timestamp}
    (unchanged : (book.updateStatus id target moment).1 ≠ .ok true) :
    (book.updateStatus id target moment).2 = book := by
  have taken := book.updateCase id target moment
  generalize book.updateStatus id target moment = result at taken unchanged
  rcases result with ⟨answer, after⟩
  cases taken with
  | offline _ | missing _ _ | corrupt _ _ _ _ _ | settled _ _ _ _ _
  | unchanged _ _ _ _ _ => rfl
  | moved _ _ _ _ _ => exact absurd rfl unchanged

structure Tidy (book : PaymentBook) : Prop where
  keyed : book.Keyed
  staged : ∀ id record, book.records.get? id = some record → record.Staged

theorem tidy_empty : empty.Tidy where
  keyed := keyed_empty
  staged id record found := by cases found

theorem Tidy.apply (tidy : book.Tidy) (event : BookEvent) : (book.apply event).Tidy := by
  cases event with
  | insert payment moment message =>
      have taken := book.insertCase (.pending payment moment) message
      refine ⟨tidy.keyed.insert taken, ?_⟩
      simp only [PaymentBook.apply]
      generalize book.insert (.pending payment moment) message = result at taken
      rcases result with ⟨outcome, after⟩
      cases taken with
      | offline _ | conflict _ _ _ _ | duplicate _ _ _ _ | keyTaken _ _ _ _ =>
          exact tidy.staged
      | inserted _ _ _ =>
          intro id record found
          simp only [Table.get?_insert] at found
          split at found
          · cases found
            exact .pending rfl rfl
          · exact tidy.staged id record found
  | updateStatus id target moment =>
      have taken := book.updateCase id target moment
      refine ⟨tidy.keyed.updateStatus taken, ?_⟩
      simp only [PaymentBook.apply]
      generalize book.updateStatus id target moment = result at taken
      rcases result with ⟨answer, after⟩
      cases taken with
      | offline _ | missing _ _ | corrupt _ _ _ _ _ | settled _ _ _ _ _
      | unchanged _ _ _ _ _ => exact tidy.staged
      | moved held _ heldFound pending terminal =>
          intro other record found
          rw [Table.get?_insert] at found
          split at found
          · cases found
            have first := (tidy.staged id held heldFound).version_eq_one pending
            exact .settled (PaymentRecord.isSettled_iff.mpr ⟨target, terminal, rfl⟩)
              (congrArg (· + 1) first)
          · exact tidy.staged other record found
  | setOnline online => exact ⟨⟨tidy.keyed.id_eq, tidy.keyed.key_unique⟩, tidy.staged⟩

theorem Tidy.after (tidy : book.Tidy) (events : List BookEvent) :
    (book.after events).Tidy := by
  induction events generalizing book with
  | nil => exact tidy
  | cons event rest inductionHypothesis => exact inductionHypothesis (tidy.apply event)

theorem exists_continues_apply (event : BookEvent) {id : String} {record : PaymentRecord}
    (found : book.records.get? id = some record) :
    ∃ next, (book.apply event).records.get? id = some next ∧ record.Continues next := by
  cases event with
  | insert payment moment message =>
      have taken := book.insertCase (.pending payment moment) message
      exact ⟨record, taken.get?_eq_some found, .same⟩
  | updateStatus other target moment =>
      exact (book.updateCase other target moment).exists_continues found
  | setOnline online => exact ⟨record, found, .same⟩

theorem exists_continues_after (events : List BookEvent) {id : String}
    {record : PaymentRecord} (found : book.records.get? id = some record) :
    ∃ next, (book.after events).records.get? id = some next ∧ record.Continues next := by
  induction events generalizing book record with
  | nil => exact ⟨record, found, .same⟩
  | cons event rest inductionHypothesis =>
      obtain ⟨middle, middleFound, early⟩ := exists_continues_apply event found
      obtain ⟨next, nextFound, late⟩ := inductionHypothesis middleFound
      exact ⟨next, nextFound, early.trans late⟩

theorem Keyed.eq_of_mem_values (keyed : book.Keyed) {first second : PaymentRecord}
    (firstMember : first ∈ book.records.values) (secondMember : second ∈ book.records.values)
    (same : first.idempotencyKey = second.idempotencyKey) : first = second := by
  obtain ⟨id, firstFound⟩ := (Table.mem_values_iff _ _).mp firstMember
  obtain ⟨other, secondFound⟩ := (Table.mem_values_iff _ _).mp secondMember
  have one := keyed.key_unique id other first second firstFound secondFound same
  rw [one, secondFound] at firstFound
  exact (Option.some.inj firstFound).symm

/-- The owner of a key is the same in whatever order the payments are looked through. -/
theorem Keyed.find?_eq_owner? (keyed : book.Keyed) {listed : List PaymentRecord}
    (shuffled : listed.Perm book.records.values) (key : String) :
    (listed.find? fun record => record.idempotencyKey == key) = book.owner? key := by
  cases owned : book.owner? key with
  | none =>
      rw [List.find?_eq_none]
      intro record member
      exact List.find?_eq_none.mp owned record (shuffled.subset member)
  | some owner =>
      have listedOwner : owner ∈ listed :=
        shuffled.symm.subset (List.mem_of_find?_eq_some owned)
      have ownerKey := (owner?_eq_some owned).2
      cases located : listed.find? fun record => record.idempotencyKey == key with
      | none =>
          exact absurd (beq_iff_eq.mpr ownerKey) (List.find?_eq_none.mp located owner listedOwner)
      | some record =>
          have recordKey := List.find?_some located
          have member := shuffled.subset (List.mem_of_find?_eq_some located)
          rw [keyed.eq_of_mem_values member (shuffled.subset listedOwner)
            ((eq_of_beq recordKey).trans ownerKey.symm)]

/-- A key that is taken belongs to one payment of the book. -/
theorem Keyed.owner_unique (keyed : book.Keyed) {record : PaymentRecord}
    {message : Option OutboundMessage} {owner : String}
    (taken : (book.insert record message).1 = .ok (.keyTaken owner)) :
    ∃ held, book.records.get? owner = some held ∧
      held.idempotencyKey = record.idempotencyKey ∧
      ∀ id other, book.records.get? id = some other →
        other.idempotencyKey = record.idempotencyKey → id = owner := by
  have outcome := book.insertCase record message
  rw [taken] at outcome
  generalize (book.insert record message).2 = after at outcome
  cases outcome with
  | keyTaken held _ _ owned =>
      obtain ⟨⟨id, found⟩, heldKey⟩ := owner?_eq_some owned
      have named := keyed.id_eq id held found
      rw [named]
      refine ⟨held, found, heldKey, fun other record present key => ?_⟩
      exact keyed.key_unique other id record held present found (key.trans heldKey.symm)

theorem get?_of_inserted {record : PaymentRecord} {message : Option OutboundMessage}
    (inserted : (book.insert record message).1 = .ok .inserted) :
    (book.insert record message).2.records.get? record.id = some record := by
  have outcome := book.insertCase record message
  rw [inserted] at outcome
  generalize (book.insert record message).2 = after at outcome ⊢
  cases outcome with
  | inserted _ _ _ => exact (get?_store _ _ _ _).trans (if_pos rfl)

/--
Whatever a book is asked for and however often its database fails, every payment lies
under its own id, is pending in its first version or settled in its second, and is
there for good, unchanged but for being settled once; keys are never shared, so that
the owner of a key does not depend on where the search for it begins; a payment that is
added is found pending with what was accepted; and a call that adds or changes nothing
leaves the book, with its outbox, exactly as it was.
-/
theorem records_only_settle (events : List BookEvent) :
    let book := empty.after events
    (∀ id record, book.records.get? id = some record → record.id = id ∧ record.Staged) ∧
    (∀ rest id record, book.records.get? id = some record →
      ∃ next, (book.after rest).records.get? id = some next ∧ record.Continues next ∧
        (record.IsSettled → next = record)) ∧
    (∀ first second one other, book.records.get? first = some one →
      book.records.get? second = some other →
      one.idempotencyKey = other.idempotencyKey → first = second) ∧
    (∀ key, ∀ listed : List PaymentRecord, listed.Perm book.records.values →
      (listed.find? fun record => record.idempotencyKey == key) = book.owner? key) ∧
    (∀ payment moment message,
      let result := book.insert (.pending payment moment) message
      (result.1 = .ok .inserted →
        ∃ record, result.2.records.get? payment.id = some record ∧
          record.PendingFor payment moment) ∧
      (∀ owner, result.1 = .ok (.keyTaken owner) →
        ∃ held, book.records.get? owner = some held ∧
          held.idempotencyKey = payment.idempotencyKey ∧
          ∀ id other, book.records.get? id = some other →
            other.idempotencyKey = payment.idempotencyKey → id = owner) ∧
      (result.1 ≠ .ok .inserted → result.2 = book)) ∧
    (∀ id target moment,
      let result := book.updateStatus id target moment
      result.1 ≠ .ok true → result.2 = book) := by
  intro book
  have tidy : book.Tidy := tidy_empty.after events
  refine ⟨?_, ?_, tidy.keyed.key_unique, fun key listed shuffled =>
    tidy.keyed.find?_eq_owner? shuffled key, fun payment moment message => ?_,
    fun id target moment => updateStatus_of_ne_true⟩
  · intro id record found
    exact ⟨tidy.keyed.id_eq id record found, tidy.staged id record found⟩
  · intro rest id record found
    obtain ⟨next, nextFound, continues⟩ := exists_continues_after rest found
    exact ⟨next, nextFound, continues, continues.eq_of_isSettled⟩
  · refine ⟨fun inserted => ⟨_, get?_of_inserted inserted, ?_⟩,
      fun owner taken => tidy.keyed.owner_unique taken, insert_of_ne_inserted⟩
    exact PaymentRecord.pendingFor_pending payment moment

end PaymentBook

end Clearing
