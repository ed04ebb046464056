import Clearing.Proofs.World.Accumulation
import Clearing.Settlement.Member
import Mathlib.Data.List.Nodup
/-!
Order between the stores of a deployment that nothing is lost in.  Every payment
of the book has an entry in the outbox, every entry that is marked stands in the
log of its topic, and everything below a committed offset has been settled.
-/

namespace Clearing

namespace World

def Resolved (world : World) (payload : Bytes) : Prop :=
  ∃ event record, SettlementEvent.decode payload = .ok event ∧
    world.book.records.get? event.id = some record ∧ record.IsSettled

/-- A message stands in the log that its key belongs to. -/
def Logged (world : World) (message : OutboundMessage) : Prop :=
  ∃ entry ∈ world.broker.log
      ⟨message.topic, partitionFor message.key world.broker.partitions⟩,
    entry.payload = message.payload

/-- Everything that stands in a log before an offset has been settled. -/
def DoneBelow (world : World) (name : LogName) (offset : Int) : Prop :=
  ∀ index : Nat, index < offset →
    ∃ entry, (world.broker.log name)[index]? = some entry ∧
      world.Resolved entry.payload

structure Orderly (topic : String) (world : World) : Prop where
  ledgerOnline : world.ledger.online = true
  bookOnline : world.book.online = true
  announced : ∀ id, (world.book.records.get? id).isSome →
    ∃ entry ∈ world.book.outbox.entries, entry.message.Announces topic id
  numbered : world.book.outbox.entries.map OutboxEntry.id =
    List.range' 1 world.book.outbox.entries.length
  published : ∀ entry ∈ world.book.outbox.entries, entry.published = true →
    world.Logged entry.message
  commits : ∀ name offset, world.broker.commits.get? name = some offset →
    world.DoneBelow name.log offset

variable {before after world : World} {topic : String}

theorem Resolved.of_accumulates (accumulates : before.Accumulates after)
    {payload : Bytes} (resolved : before.Resolved payload) : after.Resolved payload := by
  obtain ⟨event, record, decoded, found, settled⟩ := resolved
  obtain ⟨later, laterFound, continues⟩ := accumulates.records event.id record found
  exact ⟨event, later, decoded, laterFound, continues.isSettled settled⟩

theorem Logged.of_accumulates (accumulates : before.Accumulates after)
    {message : OutboundMessage} (logged : before.Logged message) :
    after.Logged message := by
  obtain ⟨entry, member, same⟩ := logged
  refine ⟨entry, ?_, same⟩
  rw [accumulates.partitions]
  exact (accumulates.logs _).subset member

theorem DoneBelow.of_accumulates (accumulates : before.Accumulates after)
    {name : LogName} {offset : Int} (done : before.DoneBelow name offset) :
    after.DoneBelow name offset := by
  intro index below
  obtain ⟨entry, present, resolved⟩ := done index below
  refine ⟨entry, ?_, resolved.of_accumulates accumulates⟩
  obtain ⟨more, grown⟩ := accumulates.logs name
  obtain ⟨inside, _⟩ := List.getElem?_eq_some_iff.mp present
  rw [← grown, List.getElem?_append_left inside]
  exact present

theorem doneBelow_zero (world : World) (name : LogName) : world.DoneBelow name 0 := by
  intro index below
  omega

theorem DoneBelow.succ {name : LogName} {offset : Int} (done : world.DoneBelow name offset)
    (nonneg : 0 ≤ offset) {entry : LogEntry}
    (present : (world.broker.log name)[offset.toNat]? = some entry)
    (resolved : world.Resolved entry.payload) : world.DoneBelow name (offset + 1) := by
  intro index below
  by_cases same : index = offset.toNat
  · subst same
    exact ⟨entry, present, resolved⟩
  · apply done
    omega

theorem Orderly.committed (orderly : world.Orderly topic) (group : String)
    (name : LogName) :
    world.DoneBelow name
      ((world.broker.committed? group name.topic name.partition).getD 0) := by
  unfold Broker.committed?
  cases held : world.broker.commits.get? ⟨group, name⟩ with
  | none => exact world.doneBelow_zero name
  | some offset => exact orderly.commits _ offset held

theorem Orderly.entry_unique (orderly : world.Orderly topic) {first second : OutboxEntry}
    (firstMember : first ∈ world.book.outbox.entries)
    (secondMember : second ∈ world.book.outbox.entries) (same : first.id = second.id) :
    first = second := by
  have distinct : (world.book.outbox.entries.map OutboxEntry.id).Nodup := by
    rw [orderly.numbered]
    exact List.nodup_range'
  exact List.inj_on_of_nodup_map distinct firstMember secondMember same

theorem Orderly.of_accumulates (orderly : before.Orderly topic)
    (accumulates : before.Accumulates after)
    (ledger : after.ledger.online = before.ledger.online)
    (book : after.book.online = before.book.online)
    (records : ∀ id, (after.book.records.get? id).isSome →
      (before.book.records.get? id).isSome)
    (outbox : after.book.outbox.entries = before.book.outbox.entries)
    (commits : after.broker.commits = before.broker.commits) : after.Orderly topic := by
  constructor
  · exact ledger.trans orderly.ledgerOnline
  · exact book.trans orderly.bookOnline
  · intro id present
    rw [outbox]
    exact orderly.announced id (records id present)
  · rw [outbox]
    exact orderly.numbered
  · intro entry member marked
    rw [outbox] at member
    exact (orderly.published entry member marked).of_accumulates accumulates
  · intro name offset held
    rw [commits] at held
    exact (orderly.commits name offset held).of_accumulates accumulates

theorem orderly_ofPartitions (topic : String) (partitions : Int) :
    (ofPartitions partitions).Orderly topic := by
  constructor
  · rfl
  · rfl
  · intro id present
    cases present
  · rfl
  · intro entry member
    cases member
  · intro name offset held
    cases held

theorem Orderly.withStore (orderly : world.Orderly topic) (store : Store) :
    { world with store := store }.Orderly topic :=
  orderly.of_accumulates (world.accumulates_withStore store) rfl rfl (fun _ => id) rfl rfl

theorem Orderly.append (orderly : world.Orderly topic) (message : OutboundMessage) :
    { world with broker := (world.broker.append message).2 }.Orderly topic :=
  orderly.of_accumulates (world.accumulates_append message) rfl rfl (fun _ => id) rfl rfl

theorem Orderly.updateStatus (orderly : world.Orderly topic) (id : String)
    (status : PaymentStatus) : (world.updateStatus id status).2.Orderly topic := by
  obtain ⟨answer, book, updated, after⟩ := world.exists_updateCase id status
  have accumulates := world.accumulates_updateStatus id status
  rw [after] at accumulates ⊢
  cases updated with
  | offline _ | missing _ _ | corrupt _ _ _ _ _ | settled _ _ _ _ _
  | unchanged _ _ _ _ _ => exact orderly
  | moved held available found pending terminal =>
      apply orderly.of_accumulates accumulates rfl rfl _ rfl rfl
      intro other present
      simp only [Table.get?_insert] at present
      split at present
      · rename_i same
        rw [same, found]
        rfl
      · exact present

theorem Orderly.store (orderly : world.Orderly topic) {record : PaymentRecord}
    {message : OutboundMessage} (fresh : world.book.records.get? record.id = none)
    (announces : message.Announces topic record.id) :
    { world with book := world.book.store record (some message) }.Orderly topic := by
  have accumulates := world.accumulates_store fresh (some message)
  constructor
  · exact orderly.ledgerOnline
  · exact orderly.bookOnline
  · intro id present
    by_cases same : id = record.id
    · subst same
      exact ⟨_, List.mem_append_right _ (List.mem_singleton.mpr rfl), announces⟩
    · simp only [PaymentBook.get?_store, if_neg same] at present
      obtain ⟨entry, member, announced⟩ := orderly.announced id present
      exact ⟨entry, List.mem_append_left _ member, announced⟩
  · simp only [PaymentBook.store, Outbox.push, List.map_append, List.length_append,
      List.map_singleton, List.length_singleton, List.range'_1_concat, orderly.numbered,
      Nat.add_comm 1]
  · intro entry member marked
    rcases List.mem_append.mp member with held | new
    · exact (orderly.published entry held marked).of_accumulates accumulates
    · rw [List.mem_singleton.mp new] at marked
      cases marked
  · intro name offset held
    exact (orderly.commits name offset held).of_accumulates accumulates

theorem Orderly.markPublished (orderly : world.Orderly topic) {entry : OutboxEntry}
    (member : entry ∈ world.book.outbox.entries) (logged : world.Logged entry.message) :
    (world.markPublished entry.id).Orderly topic := by
  have accumulates := world.accumulates_markPublished entry.id
  constructor
  · exact orderly.ledgerOnline
  · exact orderly.bookOnline
  · intro id present
    obtain ⟨held, heldMember, announces⟩ := orderly.announced id present
    obtain ⟨later, laterMember, _, same⟩ := accumulates.outbox held heldMember
    exact ⟨later, laterMember, same ▸ announces⟩
  · simp only [World.markPublished, Outbox.markPublished, List.map_map, List.length_map]
    rw [← orderly.numbered]
    apply List.map_congr_left
    intro held _
    simp only [Function.comp_apply]
    split <;> rfl
  · intro later laterMember marked
    obtain ⟨held, heldMember, rfl⟩ := List.mem_map.mp laterMember
    by_cases same : held.id = entry.id
    · rw [orderly.entry_unique heldMember member same, if_pos rfl]
      exact logged.of_accumulates accumulates
    · rw [if_neg same] at marked ⊢
      exact (orderly.published held heldMember marked).of_accumulates accumulates
  · intro name offset held
    exact (orderly.commits name offset held).of_accumulates accumulates

theorem Orderly.commit (orderly : world.Orderly topic) (group : String)
    {message : InboundMessage}
    (done : world.DoneBelow ⟨message.topic, message.partition⟩ (message.offset + 1)) :
    world.Accumulates (world.commit group message).2 ∧
      (world.commit group message).2.Orderly topic := by
  unfold World.commit
  cases world.faults.commit with
  | some error => exact ⟨.refl world, orderly⟩
  | none =>
      dsimp only
      have accumulates : world.Accumulates
          { world with
            broker := world.broker.commit group message.topic message.partition
              (message.offset + 1) } :=
        .of_eq rfl rfl rfl rfl
      refine ⟨accumulates, orderly.ledgerOnline, orderly.bookOnline, orderly.announced,
        orderly.numbered, orderly.published, ?_⟩
      intro name offset held
      apply DoneBelow.of_accumulates accumulates
      simp only [Broker.commit, Table.get?_insert] at held
      split at held
      · rename_i same
        subst same
        cases earlier : world.broker.commits.get?
            ⟨group, ⟨message.topic, message.partition⟩⟩ with
        | none =>
            rw [earlier] at held
            cases held
            exact done
        | some latest =>
            rw [earlier] at held
            cases held
            dsimp only
            rcases max_choice latest (message.offset + 1) with kept | moved
            · rw [kept]
              exact orderly.commits _ latest earlier
            · rw [moved]
              exact done
      · exact orderly.commits name offset held

end World

end Clearing
