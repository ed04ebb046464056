import Clearing.Proofs.Bus.Logs
/-!
What a consumer finds when it looks at the broker: the message at one of its
positions, which it steps over, or nothing at all.
-/

namespace Clearing.Consumer

structure Stands (broker : Broker) (topic : String) (message : InboundMessage) :
    Prop where
  topic_eq : message.topic = topic
  nonneg : 0 ≤ message.offset
  logged : ∃ entry, (broker.log ⟨topic, message.partition⟩)[message.offset.toNat]? =
    some entry ∧ entry.payload = message.payload

/-- Where a consumer reads on when it looks. -/
def reading (consumer : Consumer) (broker : Broker) : List Int :=
  consumer.positions.getD (consumer.committedPositions broker)

theorem messageAt_eq_some_iff {consumer : Consumer} {broker : Broker} {partition : Nat}
    {offset : Int} {message : InboundMessage} :
    consumer.messageAt broker partition offset = some message ↔
      0 ≤ offset ∧
        (broker.messages ⟨consumer.topic, partition⟩)[offset.toNat]? = some message := by
  unfold messageAt
  split
  · rename_i negative
    constructor
    · intro found
      cases found
    · rintro ⟨nonneg, _⟩
      omega
  · rename_i nonneg
    have same : ((offset.toNat : Nat) : Int) = offset := by omega
    simp only [Broker.getElem?_messages, LogEntry.delivered, same]
    exact ⟨fun found => ⟨Int.not_lt.mp nonneg, found⟩, fun found => found.2⟩

theorem place_of_messageAt {consumer : Consumer} {broker : Broker} {partition : Nat}
    {offset : Int} {message : InboundMessage}
    (found : consumer.messageAt broker partition offset = some message) :
    message.partition = partition ∧ message.offset = offset := by
  obtain ⟨nonneg, present⟩ := messageAt_eq_some_iff.mp found
  obtain ⟨_, same, stands⟩ := Broker.place_of_messages present
  refine ⟨same, ?_⟩
  omega

theorem messageAt_of_not_hasTopic {consumer : Consumer} {broker : Broker}
    (unknown : ¬ broker.hasTopic consumer.topic = true) (partition : Nat) (offset : Int) :
    consumer.messageAt broker partition offset = none := by
  have empty : broker.log ⟨consumer.topic, partition⟩ = [] := by
    by_contra present
    exact unknown (Broker.hasTopic_of_log_ne_nil present)
  unfold messageAt
  rw [empty]
  split <;> rfl

theorem stands_of_messageAt {consumer : Consumer} {broker : Broker} {partition : Nat}
    {offset : Int} {message : InboundMessage}
    (found : consumer.messageAt broker partition offset = some message) :
    message.partition = partition ∧ message.offset = offset ∧
      Stands broker consumer.topic message := by
  unfold messageAt at found
  split at found
  · cases found
  · rename_i nonneg
    obtain ⟨entry, present, rfl⟩ := Option.map_eq_some_iff.mp found
    refine ⟨rfl, rfl, ⟨rfl, ?_, ⟨entry, present, rfl⟩⟩⟩
    exact Int.not_lt.mp nonneg

theorem firstMessage?_eq_none_iff {consumer : Consumer} {broker : Broker}
    {positions : List Int} {order : List Nat} :
    consumer.firstMessage? broker positions order = none ↔
      ∀ partition ∈ order,
        positions[partition]?.bind (consumer.messageAt broker partition) = none := by
  induction order with
  | nil => simp [firstMessage?]
  | cons partition rest inductionHypothesis =>
      rw [firstMessage?, List.forall_mem_cons]
      cases positions[partition]?.bind (consumer.messageAt broker partition) with
      | some message => simp
      | none => simpa using inductionHypothesis

theorem exists_of_firstMessage?_eq_some {consumer : Consumer} {broker : Broker}
    {positions : List Int} {order : List Nat} {message : InboundMessage}
    (found : consumer.firstMessage? broker positions order = some message) :
    ∃ partition ∈ order,
      positions[partition]?.bind (consumer.messageAt broker partition) = some message := by
  induction order with
  | nil => cases found
  | cons partition rest inductionHypothesis =>
      unfold firstMessage? at found
      split at found
      · rename_i held located
        cases found
        exact ⟨partition, List.mem_cons_self, located⟩
      · obtain ⟨other, member, located⟩ := inductionHypothesis found
        exact ⟨other, List.mem_cons_of_mem _ member, located⟩

theorem mem_turnOrder_iff {partitions : Nat} (turn partition : Nat) :
    partition ∈ turnOrder partitions turn ↔ partition < partitions := by
  unfold turnOrder
  rw [List.mem_map]
  constructor
  · rintro ⟨step, member, rfl⟩
    exact Nat.mod_lt _ (Nat.zero_lt_of_lt (List.mem_range.mp member))
  · intro inRange
    have positive := Nat.zero_lt_of_lt inRange
    have bound := Nat.mod_lt turn positive
    have whole := Nat.div_add_mod turn partitions
    -- as many steps as bring the turn up to the partition
    refine ⟨(partition + (partitions - turn % partitions)) % partitions,
      List.mem_range.mpr (Nat.mod_lt _ positive), ?_⟩
    have rounds : turn + (partition + (partitions - turn % partitions)) =
        partition + partitions * (turn / partitions + 1) := by
      rw [Nat.mul_add, Nat.mul_one]
      omega
    rw [Nat.add_mod_mod, rounds, Nat.add_mul_mod_self_left, Nat.mod_eq_of_lt inRange]

theorem exists_turnOrder_eq_cons {partitions : Nat} (positive : 0 < partitions)
    (turn : Nat) : ∃ rest, turnOrder partitions turn = turn % partitions :: rest := by
  obtain ⟨others, rfl⟩ := Nat.exists_eq_succ_of_ne_zero positive.ne'
  unfold turnOrder
  rw [Nat.succ_eq_add_one, List.range_succ_eq_map, List.map_cons]
  exact ⟨_, rfl⟩

/-- What a look at the broker comes to, and the consumer after it. -/
inductive LookCase (consumer : Consumer) (broker : Broker) :
    Except BusError (Option InboundMessage) → Consumer → Prop where
  | refused (error : BusError) :
      LookCase consumer broker (.error error) consumer
  | nothing (turn : Nat) :
      (∀ partition < broker.partitions, ∀ position,
        (consumer.reading broker)[partition]? = some position →
        consumer.messageAt broker partition position = none) →
      (broker.hasTopic consumer.topic = true → turn = consumer.turn + 1) →
      LookCase consumer broker (.ok none)
        { consumer with
          positions := some (consumer.reading broker)
          turn := turn }
  | message (message : InboundMessage) :
      message.partition < broker.partitions →
      (consumer.reading broker)[message.partition]? = some message.offset →
      consumer.messageAt broker message.partition message.offset = some message →
      (∀ position found,
        (consumer.reading broker)[consumer.turn % broker.partitions]? = some position →
        consumer.messageAt broker (consumer.turn % broker.partitions) position = some found →
        found = message) →
      LookCase consumer broker (.ok (some message))
        { consumer with
          positions := some ((consumer.reading broker).set message.partition
            (message.offset + 1))
          turn := consumer.turn + 1 }

theorem lookCase (consumer : Consumer) (broker : Broker) :
    LookCase consumer broker (consumer.fetch broker).1 (consumer.fetch broker).2 := by
  unfold fetch
  cases broker.outage with
  | some error => exact .refused error
  | none =>
      unfold poll
      by_cases known : broker.hasTopic consumer.topic = true
      · simp only [if_pos known]
        cases looked : consumer.firstMessage? broker
            (consumer.positions.getD (consumer.committedPositions broker))
            (turnOrder broker.partitions consumer.turn) with
        | none =>
            refine .nothing (consumer.turn + 1) (fun partition inRange position held => ?_)
              fun _ => rfl
            have passed := firstMessage?_eq_none_iff.mp looked partition
              ((mem_turnOrder_iff _ _).mpr inRange)
            exact (congrArg (Option.bind · _) held).symm.trans passed
        | some message =>
            obtain ⟨partition, member, located⟩ := exists_of_firstMessage?_eq_some looked
            obtain ⟨position, held, found⟩ := Option.bind_eq_some_iff.mp located
            obtain ⟨rfl, rfl⟩ := place_of_messageAt found
            refine .message message ((mem_turnOrder_iff _ _).mp member) held found ?_
            intro position first firstHeld firstFound
            obtain ⟨rest, order⟩ :=
              exists_turnOrder_eq_cons broker.partitions_pos consumer.turn
            have next : (consumer.positions.getD (consumer.committedPositions broker))[
                consumer.turn % broker.partitions]?.bind
                (consumer.messageAt broker (consumer.turn % broker.partitions)) =
                  some first :=
              Option.bind_eq_some_iff.mpr ⟨position, firstHeld, firstFound⟩
            rw [order, firstMessage?, next] at looked
            exact Option.some.inj looked
      · simp only [if_neg known]
        exact .nothing consumer.turn
          (fun partition _ position _ => messageAt_of_not_hasTopic known partition position)
          fun has => absurd has known

/-- What an attempt to get a message comes to, and the consumer after it. -/
inductive FetchCase (consumer : Consumer) (broker : Broker) :
    Except BusError (Option InboundMessage) → Consumer → Prop where
  | failed (error : BusError) :
      FetchCase consumer broker (.error error) consumer
  | nothing (turn : Nat) :
      FetchCase consumer broker (.ok none)
        { consumer with
          positions := some (consumer.reading broker)
          turn := turn }
  | message (turn : Nat) (message : InboundMessage) :
      (consumer.reading broker)[message.partition]? = some message.offset →
      Stands broker consumer.topic message →
      FetchCase consumer broker (.ok (some message))
        { consumer with
          positions := some ((consumer.reading broker).set message.partition
            (message.offset + 1))
          turn := turn }

theorem fetchCase (consumer : Consumer) (broker : Broker) :
    FetchCase consumer broker (consumer.fetch broker).1 (consumer.fetch broker).2 := by
  have looked := consumer.lookCase broker
  generalize consumer.fetch broker = result at looked
  rcases result with ⟨answer, after⟩
  dsimp only at looked ⊢
  cases looked with
  | refused error => exact .failed error
  | nothing turn _ _ => exact .nothing turn
  | message message _ position found _ =>
      obtain ⟨_, _, stands⟩ := stands_of_messageAt found
      exact .message (consumer.turn + 1) message position stands

theorem Stands.payload {broker : Broker} {topic : String} {message : InboundMessage}
    (stands : Stands broker topic message) :
    ∃ name, ∃ entry ∈ broker.log name, entry.payload = message.payload := by
  obtain ⟨_, _, entry, present, same⟩ := stands
  exact ⟨_, entry, List.mem_of_getElem? present, same⟩

end Clearing.Consumer
