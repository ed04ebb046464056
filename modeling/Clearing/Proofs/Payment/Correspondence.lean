import Clearing.Proofs.Payment.Books
/-!
The book and its outbox.  A payment that is stored along with the message that
describes it leaves them in step: record for record, in the order of their storing,
the outbox has an entry, whatever becomes of the payment and of the entry later.
-/

namespace Clearing

/-- A message carries the event of the payment of a record. -/
structure OutboundMessage.Describes (message : OutboundMessage) (record : PaymentRecord) :
    Prop where
  key_eq : message.key = record.id
  event : ∃ event, SettlementEvent.decode message.payload = .ok event ∧
    event.id = record.id ∧ event.source = record.source ∧
    event.destination = record.destination ∧ event.amount = record.amount ∧
    event.currency = record.currency

theorem filter_eq_singleton {Value Measure : Type} [DecidableEq Measure]
    {measure : Value → Measure} {values : List Value}
    (distinct : (values.map measure).Nodup) {value : Value} (member : value ∈ values) :
    values.filter (fun other => measure other = measure value) = [value] := by
  induction values with
  | nil => cases member
  | cons first rest inductionHypothesis =>
      rw [List.map_cons, List.nodup_cons] at distinct
      rcases List.mem_cons.mp member with rfl | later
      · rw [List.filter_cons_of_pos (by simp)]
        refine congrArg (value :: ·) (List.filter_eq_nil_iff.mpr fun other inside same => ?_)
        exact distinct.1 (of_decide_eq_true same ▸ List.mem_map_of_mem inside)
      · rw [List.filter_cons_of_neg, inductionHypothesis distinct.2 later]
        intro same
        exact distinct.1 (of_decide_eq_true same ▸ List.mem_map_of_mem later)

namespace PaymentBook

/-- Record for record, the outbox has the message that describes it. -/
def Mirrored (book : PaymentBook) : Prop :=
  List.Forall₂ (fun record entry => entry.message.Describes record) book.records.values
    book.outbox.entries

variable {book after : PaymentBook} {record : PaymentRecord}

theorem Mirrored.insert (mirrored : book.Mirrored) {message : OutboundMessage}
    (describes : message.Describes record)
    {outcome : Except PaymentError InsertOutcome}
    (inserted : book.InsertCase record (some message) outcome after) :
    after.Mirrored := by
  cases inserted with
  | offline _ | conflict _ _ _ _ | duplicate _ _ _ _ | keyTaken _ _ _ _ => exact mirrored
  | inserted _ fresh _ =>
      unfold Mirrored store Outbox.push
      rw [Table.values_insert_of_get?_eq_none fresh]
      exact List.rel_append mirrored (.cons describes .nil)

theorem Mirrored.updateStatus (mirrored : book.Mirrored) {id : String}
    {status : PaymentStatus} {moment : Timestamp} {answer : Except PaymentError Bool}
    (updated : book.UpdateCase id status moment answer after) : after.Mirrored := by
  cases updated with
  | offline _ | missing _ _ | corrupt _ _ _ _ _ | settled _ _ _ _ _
  | unchanged _ _ _ _ _ => exact mirrored
  | moved held _ found _ _ =>
      exact forall₂_placed found (fun entry described => ⟨described.key_eq, described.event⟩)
        mirrored

theorem Mirrored.markPublished (mirrored : book.Mirrored) (id : Nat) :
    ({ book with outbox := book.outbox.markPublished id } : PaymentBook).Mirrored := by
  refine List.forall₂_map_right_iff.mpr (mirrored.imp fun record entry describes => ?_)
  split <;> exact describes

theorem Keyed.updateStatus (keyed : book.Keyed) {id : String}
    {status : PaymentStatus} {moment : Timestamp} {answer : Except PaymentError Bool}
    (updated : book.UpdateCase id status moment answer after) : after.Keyed := by
  cases updated with
  | offline _ | missing _ _ | corrupt _ _ _ _ _ | settled _ _ _ _ _
  | unchanged _ _ _ _ _ => exact keyed
  | moved held _ found _ _ =>
      -- the changed payment has the id and the key of the one that was there
      have earlier {other : String} {record : PaymentRecord}
          (present : (book.records.insert id (withStatus held status moment)).get? other =
            some record) :
          ∃ before, book.records.get? other = some before ∧ record.id = before.id ∧
            record.idempotencyKey = before.idempotencyKey := by
        rw [Table.get?_insert] at present
        split at present
        · rename_i same
          cases present
          exact ⟨held, same ▸ found, rfl, rfl⟩
        · exact ⟨record, present, rfl, rfl⟩
      constructor
      · intro other record present
        obtain ⟨before, beforeFound, same, _⟩ := earlier present
        exact same.trans (keyed.id_eq other before beforeFound)
      · intro first second one other oneFound otherFound same
        obtain ⟨oneBefore, oneHeld, _, oneKey⟩ := earlier oneFound
        obtain ⟨otherBefore, otherHeld, _, otherKey⟩ := earlier otherFound
        exact keyed.key_unique first second oneBefore otherBefore oneHeld otherHeld
          (oneKey.symm.trans (same.trans otherKey))

theorem Keyed.map_id_values (keyed : book.Keyed) :
    book.records.values.map PaymentRecord.id = book.records.keys := by
  rw [Table.values, Table.keys, List.map_map]
  refine List.map_congr_left fun entry member => ?_
  exact keyed.id_eq entry.1 entry.2 ((Table.mem_entries_iff _ _ _).mp member)

theorem Mirrored.exists_entry (mirrored : book.Mirrored) (keyed : book.Keyed)
    {id : String} (found : book.records.get? id = some record) :
    ∃ entry, book.outbox.entries.filter (fun entry => entry.message.key = id) = [entry] ∧
      entry.message.Describes record := by
  have named := keyed.id_eq id record found
  have distinct : (book.records.values.map PaymentRecord.id).Nodup := by
    rw [keyed.map_id_values]
    exact book.records.distinct
  have alone := filter_eq_singleton distinct
    ((Table.mem_values_iff _ _).mpr ⟨id, found⟩)
  have kept : List.Forall₂ (fun record entry => entry.message.Describes record)
      (book.records.values.filter fun other => other.id = record.id)
      (book.outbox.entries.filter fun entry => entry.message.key = record.id) := by
    refine List.rel_filter (fun other entry describes => ?_) mirrored
    simp only [describes.key_eq]
  rw [alone, named] at kept
  obtain ⟨entry, _, describes, none, same⟩ := List.forall₂_cons_left_iff.mp kept
  cases none
  exact ⟨entry, same, describes⟩

end PaymentBook

end Clearing
