import Clearing.Proofs.Bus.Mailroom
/-!
Passes that are left alone.  With a broker that accepts, a pass relays as many entries as it may,
oldest first, and a number of passes relays as many times as many.  Together with what holds after
any run this says what a relay is good for.
-/

namespace Clearing

def MailroomEvent.pass (batch : Nat) : List MailroomEvent :=
  .begin :: List.replicate (RelayPass.steps batch) .step

namespace Mailroom

/-- Everything that a pass needs is there. -/
structure Able (mailroom : Mailroom) : Prop where
  faults : mailroom.world.faults = .none
  available : mailroom.broker.outage = none
  marks : ∃ marked, mailroom.outbox.MarkedUpTo marked

/-- These entries were relayed in between, and they were the first ones that waited. -/
structure Relayed (mailroom next : Mailroom) (entries : List OutboxEntry) : Prop where
  able : next.Able
  published : next.published = mailroom.published ++ entries
  waiting : mailroom.outbox.unpublished = entries ++ next.outbox.unpublished

variable {mailroom : Mailroom}

theorem Relayed.refl (able : mailroom.Able) : Relayed mailroom mailroom [] where
  able := able
  published := (List.append_nil _).symm
  waiting := rfl

theorem Relayed.trans {next last : Mailroom} {entries more : List OutboxEntry}
    (front : Relayed mailroom next entries) (back : Relayed next last more) :
    Relayed mailroom last (entries ++ more) where
  able := back.able
  published := by rw [back.published, front.published, List.append_assoc]
  waiting := by rw [front.waiting, back.waiting, List.append_assoc]

theorem Relayed.unpublished {next : Mailroom} {count : Nat}
    (relayed : Relayed mailroom next (mailroom.outbox.unpublished.take count)) :
    next.outbox.unpublished = mailroom.outbox.unpublished.drop count :=
  List.append_cancel_left (relayed.waiting.symm.trans (List.take_append_drop count _).symm)

theorem after_append (batch : Nat) (mailroom : Mailroom) (events more : List MailroomEvent) :
    mailroom.after batch (events ++ more) = (mailroom.after batch events).after batch more :=
  List.foldl_append

theorem after_answered {result : Except BusError Nat}
    (answered : mailroom.pass = some (.answered result)) (batch steps : Nat) :
    mailroom.after batch (List.replicate steps .step) = mailroom := by
  induction steps with
  | zero => rfl
  | succ steps inductionHypothesis =>
      have stays : mailroom.apply batch .step = mailroom := by
        rw [apply, answered]
      rw [List.replicate_succ, after, List.foldl_cons, stays]
      exact inductionHypothesis

/-- An entry is relayed in two steps. -/
theorem relayed_first (able : mailroom.Able) (batch : Nat) {entry : OutboxEntry}
    {rest : List OutboxEntry} {relayed : Nat}
    (running : mailroom.pass = some (.running (.publish entry rest relayed)))
    (waiting : entry :: rest <+: mailroom.outbox.unpublished) :
    let next := mailroom.after batch [.step, .step]
    Relayed mailroom next [entry] ∧ next.pass = some (RelayPass.next (relayed + 1) rest) ∧
      rest <+: next.outbox.unpublished := by
  obtain ⟨marked, marks⟩ := able.marks
  obtain ⟨present, numbered⟩ := marks.first waiting
  have inside := (List.getElem?_eq_some_iff.mp present).1
  have writable : mailroom.world.faults.outboxMark = none := by
    rw [able.faults]
    rfl
  have shape : mailroom.after batch [.step, .step] =
      { mailroom with
        world :=
          World.markPublished
            { mailroom.world with broker := (mailroom.broker.append entry.message).2 } entry.id
        pass := some (RelayPass.next (relayed + 1) rest)
        published := mailroom.published ++ [entry] } := by
    simp [after, apply, taken, running, RelayPass.step, World.publish, Broker.publish,
      able.available, writable, RelayStage.accepted]
  rw [shape]
  exact ⟨{
    able := {
      faults := able.faults
      available := able.available
      marks := ⟨marked + 1, numbered ▸ marks.markPublished inside⟩ }
    published := rfl
    waiting := marks.unpublished_eq_cons waiting }, rfl, marks.waiting_markPublished waiting⟩

theorem relayed_entries (able : mailroom.Able) (batch : Nat) {entries : List OutboxEntry}
    {relayed : Nat} (running : mailroom.pass = some (RelayPass.next relayed entries))
    (waiting : entries <+: mailroom.outbox.unpublished) :
    let next := mailroom.after batch (List.replicate (2 * entries.length) .step)
    Relayed mailroom next entries ∧
      next.pass = some (.answered (.ok (relayed + entries.length))) := by
  induction entries generalizing mailroom relayed with
  | nil => exact ⟨.refl able, running⟩
  | cons entry rest inductionHypothesis =>
      obtain ⟨first, running, waiting⟩ := relayed_first able batch running waiting
      obtain ⟨others, answered⟩ := inductionHypothesis first.able running waiting
      have split : List.replicate (2 * (entry :: rest).length) MailroomEvent.step =
          [.step, .step] ++ List.replicate (2 * rest.length) .step := rfl
      rw [split, after_append]
      refine ⟨first.trans others, ?_⟩
      rw [answered, List.length_cons, Nat.add_right_comm, Nat.add_assoc]

/-- A pass that begins has the first entries that wait before it after one step. -/
theorem after_begin (able : mailroom.Able) (batch : Nat)
    (idle : ∀ stage, mailroom.pass ≠ some (.running stage)) :
    mailroom.after batch [.begin, .step] =
      { mailroom with
        world := (mailroom.world.pollOutbox batch).2
        pass := some (RelayPass.next 0 (mailroom.outbox.unpublished.take batch))
        markedBefore := mailroom.outbox.marked.length } := by
  have begun : mailroom.apply batch .begin =
      { mailroom with
        pass := some .begin
        markedBefore := mailroom.outbox.marked.length } := by
    simp only [apply]
    split
    · rename_i stage running
      exact absurd running (idle stage)
    all_goals rfl
  have readable : mailroom.world.faults.outboxRead = none := by
    rw [able.faults]
    rfl
  rw [after, List.foldl_cons, begun]
  simp [apply, taken, RelayPass.begin, RelayPass.step, readable, RelayStage.accepted,
    World.pollOutbox, Outbox.poll]

/-- A pass relays the first entries that wait, as many as it may. -/
theorem relayed_pass (able : mailroom.Able) (batch : Nat)
    (idle : ∀ stage, mailroom.pass ≠ some (.running stage)) :
    let next := mailroom.after batch (MailroomEvent.pass batch)
    let entries := mailroom.outbox.unpublished.take batch
    Relayed mailroom next entries ∧ next.pass = some (.answered (.ok entries.length)) := by
  intro next entries
  have least : entries.length ≤ batch := List.length_take_le _ _
  -- What the entries do not take of the steps is taken by an answered pass.
  have split : MailroomEvent.pass batch =
      [.begin, .step] ++ (List.replicate (2 * entries.length) .step ++
        List.replicate (2 * batch - 2 * entries.length) .step) := by
    rw [List.replicate_append_replicate, Nat.add_sub_cancel' (Nat.mul_le_mul_left 2 least)]
    rfl
  have loaded := after_begin able batch idle
  have begun : Relayed mailroom (mailroom.after batch [.begin, .step]) [] := by
    rw [loaded]
    exact ⟨⟨able.faults, able.available, able.marks.imp fun _ marks => ⟨marks.1, marks.2⟩⟩,
      (List.append_nil _).symm, rfl⟩
  have waiting : entries <+: (mailroom.after batch [.begin, .step]).outbox.unpublished := by
    rw [← List.nil_append (outbox _).unpublished, ← begun.waiting]
    exact List.take_prefix batch _
  obtain ⟨others, answered⟩ := relayed_entries begun.able batch
    (congrArg Mailroom.pass loaded) waiting
  have shape : next = (mailroom.after batch [.begin, .step]).after batch
      (List.replicate (2 * entries.length) .step) := by
    rw [show next = mailroom.after batch (MailroomEvent.pass batch) from rfl, split,
      after_append, after_append, after_answered answered]
  rw [Nat.zero_add] at answered
  rw [shape]
  exact ⟨begun.trans others, answered⟩

theorem relayed_passes (able : mailroom.Able) (batch passes : Nat)
    (idle : ∀ stage, mailroom.pass ≠ some (.running stage)) :
    Relayed mailroom
      (mailroom.after batch (List.replicate passes (MailroomEvent.pass batch)).flatten)
      (mailroom.outbox.unpublished.take (passes * batch)) := by
  induction passes generalizing mailroom with
  | zero =>
      rw [Nat.zero_mul]
      exact .refl able
  | succ passes inductionHypothesis =>
      obtain ⟨first, answered⟩ := relayed_pass able batch idle
      have others := inductionHypothesis first.able (by simp [answered])
      rw [List.replicate_succ, List.flatten_cons, after_append, Nat.succ_mul,
        Nat.add_comm (passes * batch), List.take_add, ← first.unpublished]
      exact first.trans others

theorem Sound.able {crashes marked : Nat} (sound : mailroom.Sound crashes marked)
    (available : mailroom.broker.outage = none) : mailroom.Able where
  faults := sound.faults
  available := available
  marks := ⟨marked, sound.marks⟩

theorem Sound.accepted {crashes marked : Nat} (sound : mailroom.Sound crashes marked)
    {entry : OutboxEntry} (present : entry ∈ mailroom.outbox.entries)
    (accepted : entry.id ∈ mailroom.ids) :
    entry.message.entry ∈ mailroom.broker.log
      (entry.message.logName mailroom.broker.partitions) := by
  obtain ⟨published, member, same⟩ := List.mem_map.mp accepted
  obtain ⟨held, other, sameId, sameMessage⟩ := sound.listed published member
  have equal := sound.marks.eq_of_id other present (sameId.trans same)
  rw [sound.logs, List.mem_map]
  rw [equal] at sameMessage
  exact ⟨published, List.mem_filter.mpr ⟨member, by simp [sameMessage]⟩, by rw [sameMessage]⟩

/--
A relay is at work on an outbox while messages are pushed, the broker fails and comes back, and
the relay is lost and begins again, in any order.  Entries are numbered as they were pushed, and
those that are marked are the first ones.  The log of every partition is what the relay had the
broker accept for it, these are entries of the outbox, and every marked one is among them.  When
an entry is accepted, every entry with a smaller number has been.  A pass answers with the number
of the entries that it marked.  No entry is accepted more often than the relay was lost and once
more.  And passes that are left alone, with a broker that accepts, relay as many of the first
entries that wait as they may.
-/
theorem relays_in_order (partitions : Int) (batch : Nat) (events : List MailroomEvent) :
    let mailroom := (opened partitions).after batch events
    let outbox := mailroom.outbox
    let broker := mailroom.broker
    (outbox.entries.map OutboxEntry.id = List.range' 1 outbox.entries.length ∧
      outbox.marked = outbox.entries.take outbox.marked.length) ∧
    (∀ entry ∈ outbox.marked,
      entry.message.entry ∈ broker.log (entry.message.logName broker.partitions)) ∧
    (∀ name, broker.log name =
      (mailroom.published.filter fun entry =>
        entry.message.logName broker.partitions = name).map fun entry => entry.message.entry) ∧
    (∀ entry ∈ mailroom.published, ∃ held ∈ outbox.entries,
      held.id = entry.id ∧ held.message = entry.message) ∧
    (∀ earlier entry later, mailroom.published = earlier ++ entry :: later →
      ∀ other ∈ outbox.entries, other.id < entry.id →
        other.id ∈ earlier.map OutboxEntry.id) ∧
    (∀ result, mailroom.pass = some (.answered result) →
      ∃ count, result = .ok count ∧ mailroom.markedBefore + count = outbox.marked.length) ∧
    (∀ id, mailroom.ids.count id ≤ 1 + events.count .crash) ∧
    (broker.outage = none → (∀ stage, mailroom.pass ≠ some (.running stage)) → ∀ passes,
      let next := mailroom.after batch
        (List.replicate passes (MailroomEvent.pass batch)).flatten
      next.published = mailroom.published ++ outbox.unpublished.take (passes * batch) ∧
        next.outbox.unpublished = outbox.unpublished.drop (passes * batch)) := by
  intro mailroom outbox broker
  obtain ⟨marked, sound⟩ := (sound_opened partitions).after batch events
  rw [Nat.zero_add] at sound
  refine ⟨⟨sound.marks.ids, ?_⟩, ?_, sound.logs, sound.listed, ?_, ?_, sound.repeats, ?_⟩
  · rw [sound.marks.length_marked]
    exact sound.marks.parts.1
  · intro entry member
    have present := (List.mem_filter.mp member).1
    exact sound.accepted present
      (sound.reached entry.id (sound.marks.id_pos present) (sound.marks.id_le_of_marked member))
  · intro earlier entry later shape other present less
    exact sound.ordered earlier entry later shape other.id (sound.marks.id_pos present) less
  · intro result answered
    have hand := sound.hand
    rw [answered] at hand
    cases hand with
    | answered count fresh counted =>
        exact ⟨count, rfl, counted.trans sound.marks.length_marked.symm⟩
  · intro available idle passes
    have relayed := relayed_passes (sound.able available) batch passes idle
    exact ⟨relayed.published, relayed.unpublished⟩

/-- The relay is lost before it marks the first of two entries, which is then accepted again. -/
theorem relays_in_order_afterLoss :
    let message : OutboundMessage := ⟨"payments", "alice", [], []⟩
    let events : List MailroomEvent :=
      [.push message, .push message, .begin, .step, .step, .crash]
    let mailroom := (opened 1).after 1 events
    let next := mailroom.after 1 (List.replicate 2 (MailroomEvent.pass 1)).flatten
    mailroom.ids = [1] ∧ mailroom.outbox.marked = [] ∧ mailroom.broker.outage = none ∧
      mailroom.pass = none ∧ next.ids = [1, 1, 2] ∧ next.outbox.unpublished = [] := by
  intro message events mailroom next
  obtain ⟨-, -, -, -, -, -, -, relayed⟩ := relays_in_order 1 1 events
  have idle (stage : RelayStage) : mailroom.pass ≠ some (.running stage) := by
    intro running
    cases running
  obtain ⟨published, waiting⟩ := relayed rfl idle 2
  have before : mailroom.published.map OutboxEntry.id = [1] := rfl
  have numbers : mailroom.outbox.unpublished.map OutboxEntry.id = [1, 2] := rfl
  refine ⟨before, rfl, rfl, rfl, ?_, ?_⟩
  · rw [ids, published, List.map_append, List.map_take, before, numbers]
    rfl
  · rw [waiting]
    rfl

end Mailroom

end Clearing
