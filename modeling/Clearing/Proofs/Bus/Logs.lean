import Clearing.Bus.Broker
import Clearing.Proofs.Table
/-!
Logs as they are handed to consumers.  An entry is handed out with its place, its
place is where it stood when it was appended, and a broker that goes on appends to
its logs and does nothing else to them.
-/

namespace Clearing

def OutboundMessage.logName (message : OutboundMessage) (partitions : Nat) : LogName where
  topic := message.topic
  partition := partitionFor message.key partitions

def OutboundMessage.entry (message : OutboundMessage) : LogEntry where
  key := message.key
  payload := message.payload
  headers := message.headers

def InboundMessage.entry (message : InboundMessage) : LogEntry where
  key := message.key
  payload := message.payload
  headers := message.headers

/-- An entry as a consumer is handed it. -/
def LogEntry.delivered (entry : LogEntry) (name : LogName) (offset : Nat) :
    InboundMessage where
  topic := name.topic
  partition := name.partition
  offset := offset
  key := entry.key
  payload := entry.payload
  headers := entry.headers

namespace Broker

/-- What a log has for its consumers, by offset. -/
def messages (broker : Broker) (name : LogName) : List InboundMessage :=
  (broker.log name).mapIdx fun offset entry => entry.delivered name offset

@[simp]
theorem getElem?_messages (broker : Broker) (name : LogName) (offset : Nat) :
    (broker.messages name)[offset]? =
      (broker.log name)[offset]?.map fun entry => entry.delivered name offset :=
  List.getElem?_mapIdx

theorem place_of_messages {broker : Broker} {name : LogName} {offset : Nat}
    {message : InboundMessage} (present : (broker.messages name)[offset]? = some message) :
    message.topic = name.topic ∧ message.partition = name.partition ∧
      message.offset = offset := by
  rw [getElem?_messages] at present
  obtain ⟨entry, _, rfl⟩ := Option.map_eq_some_iff.mp present
  exact ⟨rfl, rfl, rfl⟩

theorem map_entry_messages (broker : Broker) (name : LogName) :
    (broker.messages name).map InboundMessage.entry = broker.log name := by
  apply List.ext_getElem?
  intro offset
  rw [List.getElem?_map, getElem?_messages]
  cases (broker.log name)[offset]? <;> rfl

theorem partitionFor_lt (broker : Broker) (key : String) :
    partitionFor key broker.partitions < broker.partitions :=
  Nat.mod_lt _ broker.partitions_pos

theorem log_append (broker : Broker) (message : OutboundMessage) (name : LogName) :
    (broker.append message).2.log name =
      if name = message.logName broker.partitions then
        broker.log name ++ [message.entry]
      else
        broker.log name := by
  by_cases same : name = message.logName broker.partitions
  · rw [if_pos same, same]
    exact congrArg (Option.getD · []) ((Table.get?_insert _ _ _ _).trans (if_pos rfl))
  · rw [if_neg same]
    exact congrArg (Option.getD · []) ((Table.get?_insert _ _ _ _).trans (if_neg same))

theorem getElem?_log_append (broker : Broker) (message : OutboundMessage) :
    ((broker.append message).2.log (message.logName broker.partitions))[
        (broker.log (message.logName broker.partitions)).length]? =
      some message.entry := by
  rw [log_append, if_pos rfl]
  exact List.getElem?_concat_length

theorem mem_log_append (broker : Broker) (message : OutboundMessage) :
    message.entry ∈
      (broker.append message).2.log (message.logName broker.partitions) :=
  List.mem_of_getElem? (broker.getElem?_log_append message)

theorem hasTopic_of_log_ne_nil {broker : Broker} {name : LogName}
    (present : broker.log name ≠ []) : broker.hasTopic name.topic = true := by
  have known : (broker.logs.get? name).isSome := by
    cases held : broker.logs.get? name with
    | none =>
        rw [log, held] at present
        exact absurd rfl present
    | some entries => rfl
  unfold hasTopic
  rw [List.any_eq_true]
  exact ⟨name, (Table.mem_keys_iff _ _).mpr known, beq_self_eq_true _⟩

theorem committed?_commit (broker : Broker) (group : String) (name : LogName) (next : Int)
    (other : GroupLog) :
    (broker.commit group name.topic name.partition next).commits.get? other =
      if other = ⟨group, name⟩ then
        some (match broker.commits.get? other with
          | some held => max held next
          | none => next)
      else
        broker.commits.get? other := by
  simp only [commit, Table.get?_insert]
  split
  · rename_i same
    subst same
    rfl
  · rfl

/-- No group wants an offset that is before the beginning of a log. -/
def CommitsNonneg (broker : Broker) : Prop :=
  ∀ name offset, broker.commits.get? name = some offset → 0 ≤ offset

theorem CommitsNonneg.committed {broker : Broker} (nonneg : broker.CommitsNonneg)
    (group topic : String) (partition : Nat) :
    0 ≤ (broker.committed? group topic partition).getD 0 := by
  cases held : broker.committed? group topic partition with
  | none => exact Int.le_refl 0
  | some offset => exact nonneg _ offset held

/-- A broker that has gone on: whatever was published stands where it stood. -/
structure Continues (before after : Broker) : Prop where
  partitions : after.partitions = before.partitions
  logs : ∀ name, before.log name <+: after.log name

variable {before after broker : Broker}

theorem Continues.refl (broker : Broker) : broker.Continues broker where
  partitions := rfl
  logs _ := List.prefix_rfl

theorem Continues.trans {first second third : Broker} (early : first.Continues second)
    (late : second.Continues third) : first.Continues third where
  partitions := late.partitions.trans early.partitions
  logs name := (early.logs name).trans (late.logs name)

theorem Continues.of_eq (partitions : after.partitions = before.partitions)
    (logs : after.logs = before.logs) : before.Continues after where
  partitions := partitions
  logs name := by
    have same : before.log name = after.log name := by
      rw [log, log, logs]
    exact same ▸ List.prefix_rfl

theorem continues_append (broker : Broker) (message : OutboundMessage) :
    broker.Continues (broker.append message).2 where
  partitions := rfl
  logs name := by
    rw [log_append]
    split
    · exact List.prefix_append _ _
    · exact List.prefix_rfl

theorem continues_publish (broker : Broker) (message : OutboundMessage) :
    broker.Continues (broker.publish message).2 := by
  unfold publish
  cases broker.outage with
  | some error => exact .refl broker
  | none => exact continues_append broker message

theorem Continues.getElem?_log (continues : before.Continues after) {name : LogName}
    {offset : Nat} {entry : LogEntry} (present : (before.log name)[offset]? = some entry) :
    (after.log name)[offset]? = some entry := by
  obtain ⟨inside, rfl⟩ := List.getElem?_eq_some_iff.mp present
  exact List.prefix_iff_getElem?.mp (continues.logs name) offset inside

theorem Continues.messages (continues : before.Continues after) (name : LogName) :
    before.messages name <+: after.messages name := by
  obtain ⟨more, grown⟩ := continues.logs name
  unfold Broker.messages
  rw [← grown, List.mapIdx_append]
  exact List.prefix_append _ _

theorem Continues.getElem?_messages (continues : before.Continues after) {name : LogName}
    {offset : Nat} {message : InboundMessage}
    (present : (before.messages name)[offset]? = some message) :
    (after.messages name)[offset]? = some message := by
  rw [Broker.getElem?_messages] at present ⊢
  obtain ⟨entry, held, rfl⟩ := Option.map_eq_some_iff.mp present
  rw [continues.getElem?_log held, Option.map_some]

end Broker

end Clearing
