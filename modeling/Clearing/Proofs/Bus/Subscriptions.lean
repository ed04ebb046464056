import Clearing.Proofs.Bus.Consumer
import Mathlib.Data.List.Infix
/-!
Consumers and what they have been handed.  Of every partition a consumer is handed
what stands there from the offset on that its group had committed when the consumer
first looked, each message once and in order, and it finds nothing only when it has
been handed all of it.
-/

namespace Clearing

/-- A consumer, where it began, and what it has been handed since. -/
structure Subscription where
  consumer : Consumer
  /-- What its group had committed of each partition when it first looked. -/
  start : Option (Nat → Int)
  received : List InboundMessage
  /-- How often it has looked without being refused. -/
  looks : Nat

namespace Subscription

def join (group topic : String) : Subscription where
  consumer := .join group topic
  start := none
  received := []
  looks := 0

/-- Where a consumer began in a partition, or where it would begin now. -/
def beginning (subscription : Subscription) (broker : Broker) (partition : Nat) : Int :=
  match subscription.start with
  | some start => start partition
  | none =>
      (broker.committed? subscription.consumer.group subscription.consumer.topic
        partition).getD 0

def receivedFrom (subscription : Subscription) (partition : Nat) : List InboundMessage :=
  subscription.received.filter fun message => message.partition = partition

/-- Look once.  A look that the broker refuses is none. -/
def fetch (subscription : Subscription) (broker : Broker) : Subscription :=
  match subscription.consumer.fetch broker with
  | (.error _, consumer) => { subscription with consumer := consumer }
  | (.ok message?, consumer) =>
      { consumer
        start := some (subscription.beginning broker)
        received := subscription.received ++ message?.toList
        looks := subscription.looks + 1 }

/-- The message that a look would hand out. -/
def found? (subscription : Subscription) (broker : Broker) : Option InboundMessage :=
  match (subscription.consumer.fetch broker).1 with
  | .ok message? => message?
  | .error _ => none

theorem received_fetch (subscription : Subscription) (broker : Broker) :
    (subscription.fetch broker).received =
      subscription.received ++ (subscription.found? broker).toList := by
  unfold fetch found?
  rcases subscription.consumer.fetch broker with ⟨error | message?, consumer⟩
  · exact (List.append_nil _).symm
  · rfl

theorem start_fetch {subscription : Subscription} {broker : Broker} {start : Nat → Int}
    (begun : (subscription.fetch broker).start = some start) :
    start = subscription.beginning broker := by
  unfold fetch at begun
  rcases fetched : subscription.consumer.fetch broker with ⟨error | message?, consumer⟩
  · rw [fetched] at begun
    funext partition
    unfold beginning
    rw [show subscription.start = some start from begun]
  · rw [fetched] at begun
    exact (Option.some.inj begun).symm

theorem place_fetch (subscription : Subscription) (broker : Broker) :
    (subscription.fetch broker).consumer.group = subscription.consumer.group ∧
      (subscription.fetch broker).consumer.topic = subscription.consumer.topic := by
  have looked := subscription.consumer.lookCase broker
  unfold fetch
  generalize subscription.consumer.fetch broker = result at looked
  rcases result with ⟨answer, consumer⟩
  cases looked <;> exact ⟨rfl, rfl⟩

/-- All that stands before some positions, from the start on, has been handed out. -/
structure Reads (broker : Broker) (subscription : Subscription) (positions : List Int) :
    Prop where
  length_eq : positions.length = broker.partitions
  within : ∀ message ∈ subscription.received, message.partition < broker.partitions
  follows : ∀ partition < broker.partitions, ∃ first : Nat,
    subscription.beginning broker partition = first ∧
      positions[partition]? =
        some (first + (subscription.receivedFrom partition).length : Int) ∧
      subscription.receivedFrom partition <+:
        (broker.messages ⟨subscription.consumer.topic, partition⟩).drop first

inductive Sound (broker : Broker) : Subscription → Prop where
  | fresh (consumer : Consumer) :
      consumer.positions = none →
      Sound broker ⟨consumer, none, [], 0⟩
  | reading (consumer : Consumer) (start : Nat → Int) (received : List InboundMessage)
      (looks : Nat) (positions : List Int) :
      consumer.positions = some positions →
      Reads broker ⟨consumer, some start, received, looks⟩ positions →
      Sound broker ⟨consumer, some start, received, looks⟩

theorem sound_join (broker : Broker) (group topic : String) :
    (join group topic).Sound broker :=
  .fresh (.join group topic) rfl

variable {broker before after : Broker} {subscription : Subscription}
  {positions : List Int}

theorem getElem?_committedPositions (consumer : Consumer) (broker : Broker)
    {partition : Nat} (inRange : partition < broker.partitions) :
    (consumer.committedPositions broker)[partition]? =
      some ((broker.committed? consumer.group consumer.topic partition).getD 0) := by
  rw [Consumer.committedPositions, List.getElem?_map, List.getElem?_range inRange]
  rfl

/-- Wherever a consumer reads on, it has been handed all that stands before. -/
theorem Sound.reads (sound : subscription.Sound broker) (nonneg : broker.CommitsNonneg) :
    subscription.Reads broker (subscription.consumer.reading broker) := by
  cases sound with
  | fresh consumer unread =>
      constructor
      · simp [Consumer.reading, unread, Consumer.committedPositions]
      · intro message member
        cases member
      · intro partition inRange
        have committed := nonneg.committed consumer.group consumer.topic partition
        refine ⟨_, (Int.toNat_of_nonneg committed).symm, ?_, List.nil_prefix⟩
        rw [Consumer.reading, unread, Option.getD_none,
          getElem?_committedPositions consumer broker inRange,
          Int.toNat_of_nonneg committed]
        exact congrArg some (Int.add_zero _).symm
  | reading consumer start received looks positions held reads =>
      rw [Consumer.reading, held]
      exact reads

theorem Reads.passed (reads : subscription.Reads broker positions) (turn looks : Nat) :
    Reads broker
      { consumer :=
          { subscription.consumer with
            positions := some positions
            turn := turn }
        start := some (subscription.beginning broker)
        received := subscription.received
        looks := looks }
      positions where
  length_eq := reads.length_eq
  within := reads.within
  follows := reads.follows

/-- A consumer is handed the message at one of its positions and steps over it. -/
theorem Reads.handed (reads : subscription.Reads broker positions)
    {message : InboundMessage} (inRange : message.partition < broker.partitions)
    (position : positions[message.partition]? = some message.offset)
    (present : (broker.messages ⟨subscription.consumer.topic, message.partition⟩)[
      message.offset.toNat]? = some message)
    (turn looks : Nat) :
    Reads broker
      { consumer :=
          { subscription.consumer with
            positions := some (positions.set message.partition (message.offset + 1))
            turn := turn }
        start := some (subscription.beginning broker)
        received := subscription.received ++ [message]
        looks := looks }
      (positions.set message.partition (message.offset + 1)) where
  length_eq := by
    rw [List.length_set]
    exact reads.length_eq
  within other member := by
    rcases List.mem_append.mp member with earlier | new
    · exact reads.within other earlier
    · rw [List.mem_singleton.mp new]
      exact inRange
  follows partition within := by
    obtain ⟨first, begins, held, handed⟩ := reads.follows partition within
    refine ⟨first, begins, ?_⟩
    rw [List.getElem?_set, receivedFrom, List.filter_append]
    by_cases same : message.partition = partition
    · subst same
      rw [if_pos rfl, if_pos (reads.length_eq ▸ inRange), List.filter_singleton]
      rw [position] at held
      have offset := Option.some.inj held
      have next : ((broker.messages ⟨subscription.consumer.topic, message.partition⟩).drop
          first)[(subscription.receivedFrom message.partition).length]? = some message := by
        rw [List.getElem?_drop]
        have same : first + (subscription.receivedFrom message.partition).length =
            message.offset.toNat := by omega
        rw [same]
        exact present
      obtain ⟨inside, stands⟩ := List.getElem?_eq_some_iff.mp next
      have longer := List.concat_get_prefix handed inside
      rw [List.get_eq_getElem, stands] at longer
      simp only [decide_true, cond_true]
      refine ⟨?_, longer⟩
      rw [List.length_append, List.length_singleton]
      refine congrArg some ?_
      change message.offset + 1 =
        first + (((subscription.receivedFrom message.partition).length + 1 : Nat) : Int)
      omega
    · rw [if_neg same, List.filter_singleton, decide_eq_false same, cond_false,
        List.append_nil]
      exact ⟨held, handed⟩

/-- Whatever a look comes to, nothing has been left out. -/
theorem Sound.fetch (sound : subscription.Sound broker) (nonneg : broker.CommitsNonneg) :
    (subscription.fetch broker).Sound broker := by
  have reads := sound.reads nonneg
  have looked := subscription.consumer.lookCase broker
  unfold Subscription.fetch
  generalize subscription.consumer.fetch broker = result at looked
  rcases result with ⟨answer, consumer⟩
  dsimp only at looked
  cases looked with
  | refused error => exact sound
  | nothing turn _ _ =>
      dsimp only
      rw [Option.toList_none, List.append_nil]
      exact .reading _ _ _ _ _ rfl (reads.passed turn _)
  | message message inRange position found _ =>
      have present := (Consumer.messageAt_eq_some_iff.mp found).2
      exact .reading _ _ _ _ _ rfl (reads.handed inRange position present _ _)

theorem Sound.of_continues (sound : subscription.Sound before)
    (continues : before.Continues after) : subscription.Sound after := by
  cases sound with
  | fresh consumer unread => exact .fresh consumer unread
  | reading consumer start received looks positions held reads =>
      refine .reading consumer start received looks positions held ⟨?_, ?_, ?_⟩
      · rw [continues.partitions]
        exact reads.length_eq
      · rw [continues.partitions]
        exact reads.within
      · rw [continues.partitions]
        intro partition inRange
        obtain ⟨first, begins, position, handed⟩ := reads.follows partition inRange
        exact ⟨first, begins, position,
          handed.trans ((continues.messages _).drop first)⟩

theorem Reads.nonneg (reads : subscription.Reads broker positions) {partition : Nat}
    {position : Int} (held : positions[partition]? = some position) : 0 ≤ position := by
  obtain ⟨inside, _⟩ := List.getElem?_eq_some_iff.mp held
  obtain ⟨first, _, reached, _⟩ := reads.follows partition (reads.length_eq ▸ inside)
  rw [held] at reached
  have position := Option.some.inj reached
  omega

theorem Reads.stands (reads : subscription.Reads broker positions)
    {message : InboundMessage} (member : message ∈ subscription.received) :
    ∃ offset : Nat, message.offset = offset ∧
      (broker.messages ⟨subscription.consumer.topic, message.partition⟩)[offset]? =
        some message ∧
      ∃ position, positions[message.partition]? = some position ∧ offset < position := by
  obtain ⟨first, _, position, handed⟩ := reads.follows _ (reads.within message member)
  have own : message ∈ subscription.receivedFrom message.partition :=
    List.mem_filter.mpr ⟨member, decide_eq_true rfl⟩
  obtain ⟨index, inside, found⟩ := List.mem_iff_getElem.mp own
  have present := List.prefix_iff_getElem?.mp handed index inside
  rw [List.getElem?_drop, found] at present
  refine ⟨first + index, (Broker.place_of_messages present).2.2, present, _, position, ?_⟩
  omega

theorem Reads.mem_received (reads : subscription.Reads broker positions)
    {partition : Nat} (inRange : partition < broker.partitions) {position : Int}
    (held : positions[partition]? = some position) {offset : Nat}
    (begun : subscription.beginning broker partition ≤ offset) (passed : offset < position)
    {message : InboundMessage}
    (present : (broker.messages ⟨subscription.consumer.topic, partition⟩)[offset]? =
      some message) :
    message ∈ subscription.received := by
  obtain ⟨first, begins, reached, handed⟩ := reads.follows partition inRange
  rw [held] at reached
  have position := Option.some.inj reached
  have inside : offset - first < (subscription.receivedFrom partition).length := by omega
  have next := List.prefix_iff_getElem?.mp handed _ inside
  have same : first + (offset - first) = offset := by omega
  rw [List.getElem?_drop, same, present] at next
  rw [Option.some.inj next]
  exact List.mem_of_mem_filter (List.getElem_mem inside)

theorem Reads.exists_received (reads : subscription.Reads broker positions)
    {later : InboundMessage} (member : later ∈ subscription.received) {offset : Nat}
    (begun : subscription.beginning broker later.partition ≤ offset)
    (reached : offset ≤ later.offset) :
    ∃ message ∈ subscription.received,
      (broker.messages ⟨subscription.consumer.topic, later.partition⟩)[offset]? =
        some message := by
  obtain ⟨last, placed, present, position, held, passed⟩ := reads.stands member
  obtain ⟨inside, _⟩ := List.getElem?_eq_some_iff.mp present
  have earlier : offset <
      (broker.messages ⟨subscription.consumer.topic, later.partition⟩).length := by omega
  have stands := List.getElem?_eq_getElem earlier
  exact ⟨_, reads.mem_received (reads.within later member) held begun (by omega) stands,
    stands⟩

theorem Reads.receivedFrom_of_nothing
    (reads : subscription.Reads broker (subscription.consumer.reading broker))
    (nothing : (subscription.consumer.fetch broker).1 = .ok none) {partition : Nat}
    (inRange : partition < broker.partitions) :
    ∃ first : Nat, subscription.beginning broker partition = first ∧
      subscription.receivedFrom partition =
        (broker.messages ⟨subscription.consumer.topic, partition⟩).drop first := by
  obtain ⟨first, begins, position, handed⟩ := reads.follows partition inRange
  refine ⟨first, begins, handed.eq_of_length_le ?_⟩
  have looked := subscription.consumer.lookCase broker
  rw [nothing] at looked
  generalize (subscription.consumer.fetch broker).2 = consumer at looked
  cases looked with
  | nothing turn passed _ =>
      have absent := passed partition inRange _ position
      generalize (subscription.receivedFrom partition).length = received at absent ⊢
      rw [List.length_drop]
      by_contra behind
      have inside : first + received <
          (broker.messages ⟨subscription.consumer.topic, partition⟩).length := by omega
      have offset : ((first : Int) + received).toNat = first + received := by omega
      obtain ⟨message, present⟩ : ∃ message, (broker.messages
          ⟨subscription.consumer.topic, partition⟩)[first + received]? = some message :=
        ⟨_, List.getElem?_eq_getElem inside⟩
      rw [← offset] at present
      have found := Consumer.messageAt_eq_some_iff.mpr ⟨by omega, present⟩
      rw [absent] at found
      cases found

end Subscription

end Clearing
