import Clearing.Proofs.Bus.Subscriptions
/-!
A broker in use.  Messages are published, consumers of any groups join, look for
messages and commit what they have been handed, and the broker is lost and comes
back, in any order.  Every log is what was published to it, every consumer gets all
of it from its start on, and a committed offset is the largest that its group has
committed in its partition.
-/

namespace Clearing

structure Acknowledgement where
  group : String
  message : InboundMessage

def Acknowledgement.log (done : Acknowledgement) : GroupLog where
  group := done.group
  log := ⟨done.message.topic, done.message.partition⟩

/-- The offset that a group wants next when it is done with a message. -/
def Acknowledgement.next (done : Acknowledgement) : Int :=
  done.message.offset + 1

inductive ExchangeEvent where
  | publish (message : OutboundMessage)
  | join (group topic : String)
  /-- The consumer at a place looks for a message. -/
  | fetch (place : Nat)
  /-- The consumer at a place commits one of the messages that it was handed. -/
  | commit (place index : Nat)
  | setOutage (outage : Option BusError)

structure Exchange where
  broker : Broker
  subscriptions : List Subscription
  /-- What the broker has accepted, in the order of its acceptance. -/
  published : List OutboundMessage
  acknowledged : List Acknowledgement

namespace Exchange

def opened (partitions : Int) : Exchange where
  broker := .ofPartitions partitions
  subscriptions := []
  published := []
  acknowledged := []

/-- One of the messages that a consumer was handed, for its group to commit. -/
def handed? (exchange : Exchange) (place index : Nat) : Option Acknowledgement :=
  exchange.subscriptions[place]?.bind fun subscription =>
    subscription.received[index]?.map fun message =>
      ⟨subscription.consumer.group, message⟩

def apply (exchange : Exchange) : ExchangeEvent → Exchange
  | .publish message =>
      match exchange.broker.publish message with
      | (.error _, broker) => { exchange with broker := broker }
      | (.ok _, broker) =>
          { exchange with
            broker := broker
            published := exchange.published ++ [message] }
  | .join group topic =>
      { exchange with
        subscriptions := exchange.subscriptions ++ [.join group topic] }
  | .fetch place =>
      match exchange.subscriptions[place]? with
      | none => exchange
      | some subscription =>
          { exchange with
            subscriptions :=
              exchange.subscriptions.set place (subscription.fetch exchange.broker) }
  | .commit place index =>
      match exchange.handed? place index with
      | none => exchange
      | some done =>
          { exchange with
            broker := exchange.broker.commit done.group done.message.topic
              done.message.partition done.next
            acknowledged := exchange.acknowledged ++ [done] }
  | .setOutage outage => { exchange with broker := exchange.broker.setOutage outage }

def after (exchange : Exchange) (events : List ExchangeEvent) : Exchange :=
  events.foldl apply exchange

/-- What was published to a log, as the log holds it. -/
def entries (exchange : Exchange) (name : LogName) : List LogEntry :=
  (exchange.published.filter fun message =>
    message.logName exchange.broker.partitions = name).map OutboundMessage.entry

/-- The offsets that a group has committed in a partition. -/
def offsets (exchange : Exchange) (name : GroupLog) : List Int :=
  (exchange.acknowledged.filter fun done => done.log = name).map Acknowledgement.next

structure Sound (exchange : Exchange) : Prop where
  logs : ∀ name, exchange.broker.log name = exchange.entries name
  commits : ∀ name, exchange.broker.commits.get? name = (exchange.offsets name).max?
  acknowledged : ∀ done ∈ exchange.acknowledged, 0 ≤ done.message.offset
  subscriptions : ∀ subscription ∈ exchange.subscriptions,
    subscription.Sound exchange.broker

/-- What has been published stays, and no group goes back. -/
structure Proceeds (before after : Exchange) : Prop where
  broker : before.broker.Continues after.broker
  commits : ∀ name offset, before.broker.commits.get? name = some offset →
    ∃ later, after.broker.commits.get? name = some later ∧ offset ≤ later

theorem sound_opened (partitions : Int) : (opened partitions).Sound where
  logs _ := rfl
  commits _ := rfl
  acknowledged done member := by cases member
  subscriptions subscription member := by cases member

theorem Proceeds.refl (exchange : Exchange) : exchange.Proceeds exchange where
  broker := .refl exchange.broker
  commits _ offset held := ⟨offset, held, Int.le_refl offset⟩

theorem Proceeds.of_eq {before after : Exchange} (same : after.broker = before.broker) :
    before.Proceeds after where
  broker := same ▸ .refl before.broker
  commits _ offset held := ⟨offset, same ▸ held, Int.le_refl offset⟩

theorem Proceeds.trans {first second third : Exchange} (early : first.Proceeds second)
    (late : second.Proceeds third) : first.Proceeds third where
  broker := early.broker.trans late.broker
  commits name offset held := by
    obtain ⟨middle, middleHeld, before⟩ := early.commits name offset held
    obtain ⟨later, laterHeld, after⟩ := late.commits name middle middleHeld
    exact ⟨later, laterHeld, Int.le_trans before after⟩

variable {exchange : Exchange}

theorem Sound.commitsNonneg (sound : exchange.Sound) : exchange.broker.CommitsNonneg := by
  intro name offset held
  rw [sound.commits] at held
  obtain ⟨done, member, rfl⟩ := List.mem_map.mp (List.max?_mem held)
  have nonneg := sound.acknowledged done (List.mem_of_mem_filter member)
  unfold Acknowledgement.next
  omega

theorem Sound.publish (sound : exchange.Sound) (message : OutboundMessage) :
    (exchange.apply (.publish message)).Sound ∧
      exchange.Proceeds (exchange.apply (.publish message)) := by
  unfold apply Broker.publish
  cases exchange.broker.outage with
  | some error => exact ⟨sound, .refl exchange⟩
  | none =>
      have continues := exchange.broker.continues_append message
      refine ⟨⟨fun name => ?_, sound.commits, sound.acknowledged, ?_⟩,
        continues, fun name offset held => ⟨offset, held, Int.le_refl offset⟩⟩
      · change (exchange.broker.append message).2.log name =
          ((exchange.published ++ [message]).filter fun other =>
            other.logName exchange.broker.partitions = name).map OutboundMessage.entry
        rw [Broker.log_append, List.filter_append, List.map_append, List.filter_singleton,
          sound.logs]
        by_cases same : name = message.logName exchange.broker.partitions
        · rw [if_pos same, decide_eq_true same.symm]
          rfl
        · rw [if_neg same, decide_eq_false (Ne.symm same)]
          exact (List.append_nil _).symm
      · intro subscription member
        exact (sound.subscriptions subscription member).of_continues continues

theorem broker_publish (exchange : Exchange) {message : OutboundMessage}
    (available : exchange.broker.outage = none) :
    (exchange.apply (.publish message)).broker = (exchange.broker.append message).2 := by
  simp only [Exchange.apply, Broker.publish, available]

theorem max?_concat (values : List Int) (value : Int) :
    (values ++ [value]).max? =
      some (match values.max? with
        | some largest => max largest value
        | none => value) := by
  cases values with
  | nil => rfl
  | cons first rest =>
      rw [List.cons_append, List.max?_cons', List.max?_cons', List.foldl_append]
      rfl

theorem Sound.offset_nonneg (sound : exchange.Sound) {place index : Nat}
    {done : Acknowledgement} (handed : exchange.handed? place index = some done) :
    0 ≤ done.message.offset := by
  obtain ⟨subscription, present, received⟩ := Option.bind_eq_some_iff.mp handed
  obtain ⟨message, held, rfl⟩ := Option.map_eq_some_iff.mp received
  have reads := (sound.subscriptions subscription (List.mem_of_getElem? present)).reads
    sound.commitsNonneg
  obtain ⟨offset, placed, _⟩ := reads.stands (List.mem_of_getElem? held)
  exact placed ▸ Int.natCast_nonneg offset

theorem Sound.commit (sound : exchange.Sound) (place index : Nat) :
    (exchange.apply (.commit place index)).Sound ∧
      exchange.Proceeds (exchange.apply (.commit place index)) := by
  simp only [Exchange.apply]
  cases handed : exchange.handed? place index with
  | none => exact ⟨sound, .refl exchange⟩
  | some done =>
      dsimp only
      have committed (name : GroupLog) :
          (exchange.broker.commit done.group done.message.topic done.message.partition
            done.next).commits.get? name =
            if name = done.log then
              some (match exchange.broker.commits.get? name with
                | some held => max held done.next
                | none => done.next)
            else
              exchange.broker.commits.get? name :=
        exchange.broker.committed?_commit done.group done.log.log done.next name
      have continues : exchange.broker.Continues (exchange.broker.commit done.group
          done.message.topic done.message.partition done.next) := .of_eq rfl rfl
      refine ⟨⟨sound.logs, fun name => ?_, ?_, ?_⟩, continues, fun name offset found => ?_⟩
      · refine (committed name).trans ?_
        unfold offsets
        rw [List.filter_append, List.map_append, List.filter_singleton]
        by_cases same : name = done.log
        · rw [if_pos same, decide_eq_true same.symm, cond_true, List.map_singleton,
            max?_concat, sound.commits]
          rfl
        · rw [if_neg same, decide_eq_false (Ne.symm same), cond_false, List.map_nil,
            List.append_nil]
          exact sound.commits name
      · intro other member
        rcases List.mem_append.mp member with earlier | new
        · exact sound.acknowledged other earlier
        · rw [List.mem_singleton.mp new]
          exact sound.offset_nonneg handed
      · intro other member
        exact (sound.subscriptions other member).of_continues continues
      · by_cases same : name = done.log
        · refine ⟨_, (committed name).trans (if_pos same), ?_⟩
          rw [found]
          exact Int.le_max_left offset done.next
        · exact ⟨offset, (committed name).trans ((if_neg same).trans found),
            Int.le_refl offset⟩

theorem Sound.apply (sound : exchange.Sound) (event : ExchangeEvent) :
    (exchange.apply event).Sound ∧ exchange.Proceeds (exchange.apply event) := by
  cases event with
  | publish message => exact sound.publish message
  | commit place index => exact sound.commit place index
  | join group topic =>
      refine ⟨⟨sound.logs, sound.commits, sound.acknowledged, ?_⟩, .of_eq rfl⟩
      intro subscription member
      rcases List.mem_append.mp member with earlier | new
      · exact sound.subscriptions subscription earlier
      · rw [List.mem_singleton.mp new]
        exact Subscription.sound_join _ group topic
  | fetch place =>
      simp only [Exchange.apply]
      cases present : exchange.subscriptions[place]? with
      | none => exact ⟨sound, .refl exchange⟩
      | some subscription =>
          refine ⟨⟨sound.logs, sound.commits, sound.acknowledged, ?_⟩, .of_eq rfl⟩
          intro other member
          rcases List.mem_or_eq_of_mem_set member with earlier | rfl
          · exact sound.subscriptions other earlier
          · exact (sound.subscriptions subscription
              (List.mem_of_getElem? present)).fetch sound.commitsNonneg
  | setOutage outage =>
      have continues : exchange.broker.Continues (exchange.broker.setOutage outage) :=
        .of_eq rfl rfl
      refine ⟨⟨sound.logs, sound.commits, sound.acknowledged, ?_⟩, continues, ?_⟩
      · intro subscription member
        exact (sound.subscriptions subscription member).of_continues continues
      · intro name offset held
        exact ⟨offset, held, Int.le_refl offset⟩

theorem Sound.after (sound : exchange.Sound) (events : List ExchangeEvent) :
    (exchange.after events).Sound ∧ exchange.Proceeds (exchange.after events) := by
  induction events generalizing exchange with
  | nil => exact ⟨sound, .refl exchange⟩
  | cons event rest inductionHypothesis =>
      obtain ⟨next, proceeds⟩ := sound.apply event
      obtain ⟨last, goesOn⟩ := inductionHypothesis next
      exact ⟨last, proceeds.trans goesOn⟩

theorem Sound.filter_key_log (sound : exchange.Sound) (topic key : String) :
    (exchange.broker.log
        ⟨topic, partitionFor key exchange.broker.partitions⟩).filter
          (fun entry => entry.key = key) =
      (exchange.published.filter fun message =>
        message.topic = topic ∧ message.key = key).map OutboundMessage.entry := by
  rw [sound.logs, entries, List.filter_map, List.filter_filter]
  apply congrArg (List.map OutboundMessage.entry)
  apply List.filter_congr
  intro message _
  rw [Bool.eq_iff_iff]
  simp only [Function.comp_apply, Bool.and_eq_true, decide_eq_true_eq]
  constructor
  · rintro ⟨same, place⟩
    exact ⟨congrArg LogName.topic place, same⟩
  · rintro ⟨rfl, rfl⟩
    exact ⟨rfl, rfl⟩

theorem Sound.partition_of_received (sound : exchange.Sound) {subscription : Subscription}
    {positions : List Int} (reads : subscription.Reads exchange.broker positions)
    {message : InboundMessage} (member : message ∈ subscription.received) :
    message.partition = partitionFor message.key exchange.broker.partitions := by
  obtain ⟨offset, _, present, _⟩ := reads.stands member
  rw [Broker.getElem?_messages] at present
  obtain ⟨entry, held, delivered⟩ := Option.map_eq_some_iff.mp present
  have logged := List.mem_of_getElem? held
  rw [sound.logs] at logged
  obtain ⟨published, kept, rfl⟩ := List.mem_map.mp logged
  have place := of_decide_eq_true (List.mem_filter.mp kept).2
  have key : published.key = message.key := congrArg InboundMessage.key delivered
  rw [← key]
  exact (congrArg LogName.partition place).symm

/-- What a consumer receives of one key is a stretch of what was published. -/
theorem Sound.received_of_key (sound : exchange.Sound) {subscription : Subscription}
    (member : subscription ∈ exchange.subscriptions) (key : String) :
    (subscription.received.filter fun message => message.key = key).map
        InboundMessage.entry <:+:
      (exchange.published.filter fun message =>
        message.topic = subscription.consumer.topic ∧ message.key = key).map
          OutboundMessage.entry := by
  have reads := (sound.subscriptions subscription member).reads sound.commitsNonneg
  obtain ⟨first, _, _, handed⟩ := reads.follows _ (exchange.broker.partitionFor_lt key)
  have own : (subscription.received.filter fun message => message.key = key) =
      (subscription.receivedFrom (partitionFor key exchange.broker.partitions)).filter
        fun message => message.key = key := by
    rw [Subscription.receivedFrom, List.filter_filter]
    apply List.filter_congr
    intro message received
    have partition := sound.partition_of_received reads received
    by_cases same : message.key = key
    · subst same
      simp [partition]
    · simp [same]
  have stretch := (handed.isInfix.trans (List.drop_suffix _ _).isInfix).map
    InboundMessage.entry
  rw [Broker.map_entry_messages] at stretch
  have kept := stretch.filter fun entry => decide (entry.key = key)
  rw [sound.filter_key_log, List.filter_map] at kept
  rw [own]
  exact kept

/--
What a broker does for its publishers and consumers.  A message is appended to the
log of its topic and of the partition of its key, a log is what was published to it
and only grows; a consumer receives from every partition, in order and unchanged,
what stands there from its start on, finds nothing only when it has all of it, and
receives the messages of one key in the order in which they were published; and the
committed offset of a group in a partition is the largest that the group has
committed there, and never goes back.
-/
theorem delivery_contract (requested : Int) (events more : List ExchangeEvent) :
    let count := max 1 requested.toNat
    let exchange := (opened requested).after events
    let later := (opened requested).after (events ++ more)
    (∀ message, exchange.broker.outage = none →
      let next := (exchange.broker.log (message.logName count)).length
      (exchange.broker.publish message).1 = .ok
        { partition := partitionFor message.key count, offset := next } ∧
      partitionFor message.key count < count ∧
      ∀ rest, (((exchange.apply (.publish message)).after rest).broker.log
        (message.logName count))[next]? = some message.entry) ∧
    (∀ name,
      exchange.broker.log name =
        (exchange.published.filter fun message => message.logName count = name).map
          OutboundMessage.entry ∧
      exchange.broker.log name <+: later.broker.log name) ∧
    (∀ subscription ∈ exchange.subscriptions,
      (∀ message ∈ subscription.received, message.partition < count) ∧
      (∀ partition < count, ∃ first : Nat,
        subscription.beginning exchange.broker partition = first ∧
        subscription.receivedFrom partition <+:
          (exchange.broker.messages ⟨subscription.consumer.topic, partition⟩).drop first ∧
        ((subscription.consumer.fetch exchange.broker).1 = .ok none →
          subscription.receivedFrom partition =
            (exchange.broker.messages
              ⟨subscription.consumer.topic, partition⟩).drop first)) ∧
      ∀ key,
        (subscription.received.filter fun message => message.key = key).map
            InboundMessage.entry <:+:
          (exchange.published.filter fun message =>
            message.topic = subscription.consumer.topic ∧ message.key = key).map
              OutboundMessage.entry) ∧
    ∀ group topic partition,
      exchange.broker.committed? group topic partition =
        ((exchange.acknowledged.filter fun done =>
          done.log = ⟨group, topic, partition⟩).map Acknowledgement.next).max? ∧
      ∀ offset, exchange.broker.committed? group topic partition = some offset →
        ∃ next, later.broker.committed? group topic partition = some next ∧
          offset ≤ next := by
  intro count exchange later
  obtain ⟨sound, begun⟩ := (sound_opened requested).after events
  have proceeds : exchange.Proceeds later := by
    have goesOn := (sound.after more).2
    unfold after at goesOn
    rw [← List.foldl_append] at goesOn
    exact goesOn
  have partitions : exchange.broker.partitions = count := begun.broker.partitions
  refine ⟨fun message available => ?_, fun name => ?_, fun subscription member => ?_,
    fun group topic partition => ?_⟩
  · rw [← partitions]
    refine ⟨?_, exchange.broker.partitionFor_lt message.key, fun rest => ?_⟩
    · unfold Broker.publish
      rw [available]
      rfl
    · refine ((sound.publish message).1.after rest).2.broker.getElem?_log ?_
      rw [exchange.broker_publish available]
      exact exchange.broker.getElem?_log_append message
  · rw [← partitions]
    exact ⟨sound.logs name, proceeds.broker.logs name⟩
  · have reads := (sound.subscriptions subscription member).reads sound.commitsNonneg
    rw [← partitions]
    refine ⟨reads.within, fun partition inRange => ?_, sound.received_of_key member⟩
    obtain ⟨first, begins, _, handed⟩ := reads.follows partition inRange
    refine ⟨first, begins, handed, fun nothing => ?_⟩
    obtain ⟨other, otherBegins, all⟩ := reads.receivedFrom_of_nothing nothing inRange
    have same : other = first := by omega
    rw [← same]
    exact all
  · exact ⟨sound.commits _, fun offset held => proceeds.commits _ offset held⟩

end Exchange

end Clearing
