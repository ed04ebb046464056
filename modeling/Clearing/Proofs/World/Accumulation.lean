import Clearing.Proofs.Bus.Logs
import Clearing.Proofs.Payment.Books
import Clearing.Proofs.World.Disturbances
/-!
What a world never loses.  Payments stay in the book and change but for being
settled, entries stay in the outbox, and logs are only appended to.
-/

namespace Clearing

/-- A message that carries the event of a payment to a topic. -/
structure OutboundMessage.Announces (message : OutboundMessage) (topic id : String) :
    Prop where
  topic_eq : message.topic = topic
  event : ∃ event, SettlementEvent.decode message.payload = .ok event ∧ event.id = id

namespace World

structure Accumulates (before after : World) : Prop where
  records : ∀ id record, before.book.records.get? id = some record →
    ∃ later, after.book.records.get? id = some later ∧ record.Continues later
  outbox : ∀ entry ∈ before.book.outbox.entries,
    ∃ later ∈ after.book.outbox.entries,
      later.id = entry.id ∧ later.message = entry.message
  logs : ∀ name, before.broker.log name <+: after.broker.log name
  partitions : after.broker.partitions = before.broker.partitions

/-- An event of a payment stands in a log of a topic. -/
def Published (world : World) (topic id : String) : Prop :=
  ∃ partition, ∃ entry ∈ world.broker.log ⟨topic, partition⟩,
    ∃ event, SettlementEvent.decode entry.payload = .ok event ∧ event.id = id

theorem Accumulates.of_eq {before after : World}
    (records : after.book.records = before.book.records)
    (outbox : after.book.outbox.entries = before.book.outbox.entries)
    (logs : after.broker.logs = before.broker.logs)
    (partitions : after.broker.partitions = before.broker.partitions) :
    before.Accumulates after where
  records id record found := ⟨record, records ▸ found, .same⟩
  outbox entry member := ⟨entry, outbox ▸ member, rfl, rfl⟩
  logs name := by
    have same : before.broker.log name = after.broker.log name := by
      rw [Broker.log, Broker.log, logs]
    exact same ▸ List.prefix_rfl
  partitions := partitions

theorem Accumulates.refl (world : World) : world.Accumulates world :=
  .of_eq rfl rfl rfl rfl

theorem Accumulates.published {before after : World}
    (accumulates : before.Accumulates after) {topic id : String}
    (published : before.Published topic id) : after.Published topic id := by
  obtain ⟨partition, entry, member, event⟩ := published
  exact ⟨partition, entry, (accumulates.logs _).subset member, event⟩

variable (world : World)

theorem accumulates_withStore (store : Store) :
    world.Accumulates { world with store := store } :=
  .of_eq rfl rfl rfl rfl

theorem accumulates_disturb (disturbance : Disturbance) :
    world.Accumulates (world.disturb disturbance) := by
  cases disturbance <;> exact .of_eq rfl rfl rfl rfl

theorem accumulates_append (message : OutboundMessage) :
    world.Accumulates { world with broker := (world.broker.append message).2 } := by
  constructor
  · intro id record found
    exact ⟨record, found, .same⟩
  · intro entry member
    exact ⟨entry, member, rfl, rfl⟩
  · intro name
    simp only [Broker.log_append]
    split
    · exact List.prefix_append _ _
    · exact List.prefix_rfl
  · rfl

theorem published_append {message : OutboundMessage} {topic id : String}
    (announces : message.Announces topic id) :
    { world with broker := (world.broker.append message).2 }.Published topic id := by
  obtain ⟨rfl, announced⟩ := announces
  exact ⟨_, message.entry, world.broker.mem_log_append message, announced⟩

theorem accumulates_store {record : PaymentRecord}
    (fresh : world.book.records.get? record.id = none)
    (message : Option OutboundMessage) :
    world.Accumulates { world with book := world.book.store record message } := by
  constructor
  · intro id held found
    exact ⟨held, PaymentBook.get?_store_of_get? fresh message found, .same⟩
  · intro entry member
    refine ⟨entry, ?_, rfl, rfl⟩
    cases message with
    | none => exact member
    | some message => exact List.mem_append_left _ member
  · intro name
    exact List.prefix_rfl
  · rfl

theorem accumulates_insert {record : PaymentRecord} {message : Option OutboundMessage}
    {outcome : Except PaymentError InsertOutcome} {book : PaymentBook}
    (inserted : world.book.InsertCase record message outcome book) :
    world.Accumulates { world with book := book } := by
  cases inserted with
  | offline _ => exact .refl world
  | conflict _ _ _ _ => exact .refl world
  | duplicate _ _ _ _ => exact .refl world
  | keyTaken _ _ _ _ => exact .refl world
  | inserted _ fresh _ => exact world.accumulates_store fresh message

theorem exists_updateCase (id : String) (status : PaymentStatus) :
    ∃ answer book, world.book.UpdateCase id status world.moment answer book ∧
      world.updateStatus id status = (answer, { world with book := book }) :=
  ⟨_, _, world.book.updateCase id status world.moment, rfl⟩

theorem accumulates_updateStatus (id : String) (status : PaymentStatus) :
    world.Accumulates (world.updateStatus id status).2 := by
  obtain ⟨answer, book, updated, after⟩ := world.exists_updateCase id status
  rw [after]
  have settles {other : String} {record : PaymentRecord}
      (present : world.book.records.get? other = some record) :=
    updated.exists_continues present
  cases updated with
  | offline _ | missing _ _ | corrupt _ _ _ _ _ | settled _ _ _ _ _
  | unchanged _ _ _ _ _ => exact .refl world
  | moved held available found pending terminal =>
      exact ⟨fun _ _ present => settles present, fun entry member => ⟨entry, member, rfl, rfl⟩,
        fun _ => List.prefix_rfl, rfl⟩

theorem accumulates_markPublished (id : Nat) :
    world.Accumulates (world.markPublished id) := by
  constructor
  · intro other record found
    exact ⟨record, found, .same⟩
  · intro entry member
    refine ⟨_, List.mem_map.mpr ⟨entry, member, rfl⟩, ?_, ?_⟩
    · split <;> rfl
    · split <;> rfl
  · intro name
    exact List.prefix_rfl
  · rfl

end World

end Clearing
