import Clearing.Proofs.Bus.Turns
import Clearing.Proofs.Settlement.Deliveries
import Clearing.Settlement.Member
/-!
Members of settlement groups at work.  A member commits a message only when it has
processed it and all that it was handed before, so whatever lies below a committed
offset has been processed by some member of the group.
-/

namespace Clearing

structure Completion where
  group : String
  message : InboundMessage
  disposition : Disposition

/-- A group has completely processed a message. -/
def Processed (processed : List Completion) (group : String) (message : InboundMessage) :
    Prop :=
  ∃ completion ∈ processed, completion.group = group ∧ completion.message = message

/-- A group has processed all that stands in a log before an offset. -/
def Covered (broker : Broker) (processed : List Completion) (name : GroupLog)
    (next : Int) : Prop :=
  ∀ offset : Nat, offset < next → ∃ message,
    (broker.messages name.log)[offset]? = some message ∧
      Processed processed name.group message

/-- The groups have committed only what they have processed. -/
structure CommitsCovered (broker : Broker) (processed : List Completion) : Prop where
  nonneg : broker.CommitsNonneg
  covered : ∀ name next, broker.commits.get? name = some next →
    Covered broker processed name next

/-- A member, and what it has been handed since it joined. -/
structure Worker where
  member : Member
  sink : StatusSink
  start : Option (Nat → Int)
  received : List InboundMessage
  looks : Nat
  /-- It has been cancelled or has crashed, wherever it was. -/
  lost : Bool

namespace Worker

def join (sink : StatusSink) (group topic : String) : Worker where
  member := .join group topic
  sink := sink
  start := none
  received := []
  looks := 0
  lost := false

def subscription (worker : Worker) : Subscription where
  consumer := worker.member.consumer
  start := worker.start
  received := worker.received
  looks := worker.looks

/-- Take a step and keep what the broker hands out. -/
def step (worker : Worker) (world : World) : Worker × World :=
  let (_, member, after) := worker.member.step worker.sink world
  match worker.member.task with
  | .idle =>
      let seen := worker.subscription.fetch world.broker
      ({ worker with
          member := member
          start := seen.start
          received := seen.received
          looks := seen.looks }, after)
  | .delivering _ _ => ({ worker with member := member }, after)

/-- What a step completes: the message in hand, once its disposition is known. -/
def completed (worker : Worker) (world : World) : List Completion :=
  match worker.member.task with
  | .delivering message (.running stage) =>
      match (Delivery.step worker.sink world stage).1 with
      | .answered disposition => [⟨worker.member.consumer.group, message, disposition⟩]
      | .running _ => []
  | .delivering _ (.answered _) | .idle => []

/--
A worker has processed all it was handed but the message that it is delivering, and
its group had processed all that stands before its start.
-/
structure Sound (broker : Broker) (processed : List Completion) (worker : Worker) :
    Prop where
  subscription : worker.subscription.Sound broker
  begun : ∀ start, worker.start = some start → ∀ partition,
    Covered broker processed
      ⟨worker.member.consumer.group, worker.member.consumer.topic, partition⟩
      (start partition)
  held : ∀ message delivery, worker.member.task = .delivering message delivery →
    message ∈ worker.received
  handled : ∀ message ∈ worker.received,
    Processed processed worker.member.consumer.group message ∨
      ∃ stage, worker.member.task = .delivering message (.running stage)

end Worker

variable {before after broker : Broker} {processed more : List Completion}

theorem Processed.mono {group : String} {message : InboundMessage}
    (done : Processed processed group message) (kept : processed ⊆ more) :
    Processed more group message := by
  obtain ⟨completion, member, same⟩ := done
  exact ⟨completion, kept member, same⟩

theorem Covered.mono {name : GroupLog} {next : Int}
    (covered : Covered before processed name next) (continues : before.Continues after)
    (kept : processed ⊆ more) : Covered after more name next := by
  intro offset below
  obtain ⟨message, present, done⟩ := covered offset below
  exact ⟨message, continues.getElem?_messages present, done.mono kept⟩

theorem CommitsCovered.mono (commits : CommitsCovered before processed)
    (continues : before.Continues after) (same : after.commits = before.commits)
    (kept : processed ⊆ more) : CommitsCovered after more where
  nonneg name offset held := commits.nonneg name offset (same ▸ held)
  covered name next held := (commits.covered name next (same ▸ held)).mono continues kept

theorem CommitsCovered.committed (commits : CommitsCovered broker processed)
    (name : GroupLog) :
    Covered broker processed name ((broker.commits.get? name).getD 0) := by
  cases held : broker.commits.get? name with
  | none =>
      intro offset below
      rw [Option.getD_none] at below
      omega
  | some next => exact commits.covered name next held

theorem CommitsCovered.commit (commits : CommitsCovered broker processed)
    {group : String} (name : LogName) {next : Int} (nonneg : 0 ≤ next)
    (covered : Covered broker processed ⟨group, name⟩ next) :
    CommitsCovered (broker.commit group name.topic name.partition next) processed := by
  have committed := broker.committed?_commit group name next
  have continues : broker.Continues
      (broker.commit group name.topic name.partition next) := .of_eq rfl rfl
  have bounded (other : GroupLog) (offset : Int)
      (held : (broker.commit group name.topic name.partition next).commits.get? other =
        some offset) :
      broker.commits.get? other = some offset ∨ other = ⟨group, name⟩ ∧ offset = next := by
    rw [committed] at held
    split at held
    · rename_i same
      subst same
      cases Option.some.inj held
      cases earlier : broker.commits.get? ⟨group, name⟩ with
      | none => exact .inr ⟨rfl, rfl⟩
      | some offset =>
          rcases Int.le_total offset next with behind | ahead
          · exact .inr ⟨rfl, Int.max_eq_right behind⟩
          · exact .inl (congrArg some (Int.max_eq_left ahead).symm)
    · exact .inl held
  constructor
  · intro other offset held
    rcases bounded other offset held with earlier | ⟨_, rfl⟩
    · exact commits.nonneg other offset earlier
    · exact nonneg
  · intro other offset held
    rcases bounded other offset held with earlier | ⟨rfl, rfl⟩
    · exact (commits.covered other offset earlier).mono continues (List.Subset.refl _)
    · exact covered.mono continues (List.Subset.refl _)

@[simp]
theorem Delivery.broker_dropBalance (world : World) (account : String) :
    (world.dropBalance account).2.broker = world.broker := by
  simp only [World.dropBalance, World.cacheDelete]
  split <;> rfl

/-- A delivery has no business with the broker. -/
@[simp]
theorem Delivery.broker_step (sink : StatusSink) (world : World) (stage : DeliveryStage) :
    (step sink world stage).2.broker = world.broker := by
  cases stage with
  | receive payload =>
      cases decoded : SettlementEvent.decode payload with
      | error fault => rw [step, decoded]
      | ok event =>
          cases ordered : event.order? with
          | none => rw [step_receive_unsupported sink world decoded ordered]
          | some order =>
              rw [step_receive sink world decoded ordered]
              split <;> rfl
  | dropSource order | dropDestination order =>
      rw [step]
      split
      · rfl
      · exact broker_dropBalance world _
  | record id status disposition => cases sink <;> rfl

namespace Worker

variable {worker : Worker} {world : World}

theorem sound_join (broker : Broker) (processed : List Completion) (sink : StatusSink)
    (group topic : String) : (join sink group topic).Sound broker processed where
  subscription := Subscription.sound_join broker group topic
  begun start begun := by cases begun
  held message delivery held := by cases held
  handled message member := by cases member

theorem Sound.of_subscription (sound : worker.Sound before processed)
    (continues : before.Continues after) (kept : processed ⊆ more) {next : Worker}
    (same : next.subscription = worker.subscription)
    (held : ∀ message delivery, next.member.task = .delivering message delivery →
      message ∈ worker.received)
    (handled : ∀ message ∈ worker.received,
      Processed more worker.member.consumer.group message ∨
        ∃ stage, next.member.task = .delivering message (.running stage)) :
    next.Sound after more := by
  have consumer : next.member.consumer = worker.member.consumer :=
    congrArg Subscription.consumer same
  have received : next.received = worker.received :=
    congrArg Subscription.received same
  have start : next.start = worker.start := congrArg Subscription.start same
  constructor
  · rw [same]
    exact sound.subscription.of_continues continues
  · intro position begun partition
    rw [start] at begun
    rw [consumer]
    exact (sound.begun position begun partition).mono continues kept
  · rw [received]
    exact held
  · rw [received, consumer]
    exact handled

theorem Sound.mono (sound : worker.Sound before processed)
    (continues : before.Continues after) (kept : processed ⊆ more) :
    worker.Sound after more :=
  sound.of_subscription continues kept rfl sound.held fun message member =>
    (sound.handled message member).imp (·.mono kept) id

theorem Sound.covered_beginning (sound : worker.Sound broker processed)
    (commits : CommitsCovered broker processed) (partition : Nat) :
    Covered broker processed
      ⟨worker.member.consumer.group, worker.member.consumer.topic, partition⟩
      (worker.subscription.beginning broker partition) := by
  unfold Subscription.beginning
  split
  · rename_i start begun
    exact sound.begun start begun partition
  · exact commits.committed ⟨_, _, partition⟩

/-- With its last message processed, a worker has processed all before it as well. -/
theorem Sound.covered_next (sound : worker.Sound broker processed)
    (commits : CommitsCovered broker processed) {message : InboundMessage}
    {disposition : Disposition}
    (task : worker.member.task = .delivering message (.answered disposition)) :
    0 ≤ message.offset ∧
      Covered broker processed
        ⟨worker.member.consumer.group, message.topic, message.partition⟩
        (message.offset + 1) := by
  have reads := sound.subscription.reads commits.nonneg
  have member := sound.held message _ task
  obtain ⟨last, placed, present, _⟩ := reads.stands member
  have topic : message.topic = worker.member.consumer.topic :=
    (Broker.place_of_messages present).1
  refine ⟨by omega, ?_⟩
  rw [topic]
  intro offset below
  -- this worker was handed all that stands between its start and the message
  by_cases begun :
      worker.subscription.beginning broker message.partition ≤ offset
  · obtain ⟨earlier, received, stands⟩ :=
      reads.exists_received member begun (by omega)
    refine ⟨earlier, stands, ?_⟩
    rcases sound.handled earlier received with done | ⟨stage, running⟩
    · exact done
    · rw [task] at running
      cases running
  · exact sound.covered_beginning commits message.partition offset (Int.not_le.mp begun)

structure StepSound (world : World) (processed : List Completion) (worker : Worker)
    (after : World) : Prop where
  worker : worker.Sound after.broker processed
  commits : CommitsCovered after.broker processed
  continues : world.broker.Continues after.broker

theorem step_of_idle (world : World) (idle : worker.member.task = .idle) :
    (worker.step world).2 = world ∧
      (worker.step world).1.subscription = worker.subscription.fetch world.broker ∧
      (worker.step world).1.member.task =
        match worker.subscription.found? world.broker with
        | some message => .delivering message (Delivery.begin message.payload)
        | none => .idle := by
  simp only [step, Member.step, Member.fetch, idle, subscription, Subscription.fetch,
    Subscription.found?]
  rcases worker.member.consumer.fetch world.broker with ⟨error | _ | message, consumer⟩ <;>
    exact ⟨rfl, rfl, rfl⟩

theorem step_of_running (world : World) {message : InboundMessage} {stage : DeliveryStage}
    (task : worker.member.task = .delivering message (.running stage)) :
    (worker.step world).2 = (Delivery.step worker.sink world stage).2 ∧
      (worker.step world).1.subscription = worker.subscription ∧
      (worker.step world).1.member.task =
        .delivering message (Delivery.step worker.sink world stage).1 := by
  simp only [step, Member.step, task, subscription, and_self]

theorem step_of_answered (world : World) {message : InboundMessage}
    {disposition : Disposition}
    (task : worker.member.task = .delivering message (.answered disposition)) :
    (worker.step world).2 = (world.commit worker.member.consumer.group message).2 ∧
      (worker.step world).1.subscription = worker.subscription ∧
      (worker.step world).1.member.task = .idle := by
  simp only [step, Member.step, task, subscription, Member.commit]
  rcases world.commit worker.member.consumer.group message with ⟨error | _, after⟩ <;>
    exact ⟨rfl, rfl, rfl⟩

theorem subscription_step (worker : Worker) (world : World) :
    (worker.step world).1.subscription = worker.subscription ∨
      (worker.step world).1.subscription = worker.subscription.fetch world.broker := by
  rcases task : worker.member.task with _ | ⟨message, stage | disposition⟩
  · exact .inr (step_of_idle world task).2.1
  · exact .inl (step_of_running world task).2.1
  · exact .inl (step_of_answered world task).2.1

theorem Sound.look (sound : worker.Sound world.broker processed)
    (commits : CommitsCovered world.broker processed)
    (idle : worker.member.task = .idle) :
    StepSound world processed (worker.step world).1 (worker.step world).2 := by
  obtain ⟨same, seen, task⟩ := step_of_idle world idle
  generalize (worker.step world).1 = after at seen task
  obtain ⟨group, topic⟩ := worker.subscription.place_fetch world.broker
  have received := worker.subscription.received_fetch world.broker
  rw [← seen] at group topic received
  change after.member.consumer.group = worker.member.consumer.group at group
  change after.member.consumer.topic = worker.member.consumer.topic at topic
  change after.received = worker.received ++ _ at received
  rw [same]
  refine ⟨⟨?_, fun start begun partition => ?_, fun message delivery held => ?_,
    fun message member => ?_⟩, commits, .refl world.broker⟩
  · rw [seen]
    exact sound.subscription.fetch commits.nonneg
  · change after.subscription.start = some start at begun
    rw [seen] at begun
    rw [Subscription.start_fetch begun, group, topic]
    exact sound.covered_beginning commits partition
  · rw [task] at held
    split at held
    · rename_i found located
      cases held
      rw [received, located]
      exact List.mem_append_right _ List.mem_cons_self
    · cases held
  · rw [received] at member
    rcases List.mem_append.mp member with earlier | new
    · left
      rw [group]
      rcases sound.handled message earlier with done | ⟨stage, running⟩
      · exact done
      · rw [idle] at running
        cases running
    · right
      rw [Option.mem_toList.mp new] at task
      exact ⟨_, task⟩

theorem Sound.deliver (sound : worker.Sound world.broker processed)
    (commits : CommitsCovered world.broker processed) {message : InboundMessage}
    {stage : DeliveryStage}
    (task : worker.member.task = .delivering message (.running stage)) :
    StepSound world (processed ++ worker.completed world) (worker.step world).1
      (worker.step world).2 := by
  obtain ⟨same, subscription, next⟩ := step_of_running world task
  have broker : (worker.step world).2.broker = world.broker := by
    rw [same, Delivery.broker_step]
  have kept : processed ⊆ processed ++ worker.completed world :=
    List.subset_append_left _ _
  have completed (disposition : Disposition)
      (answered : (Delivery.step worker.sink world stage).1 = .answered disposition) :
      Processed (processed ++ worker.completed world) worker.member.consumer.group
        message := by
    refine ⟨⟨_, message, disposition⟩, List.mem_append_right _ ?_, rfl, rfl⟩
    simp only [Worker.completed, task, answered, List.mem_singleton]
  constructor
  · rw [broker]
    refine sound.of_subscription (.refl world.broker) kept subscription
      (fun other delivery held => ?_) (fun other found => ?_)
    · rw [next] at held
      cases held
      exact sound.held message _ task
    · rcases sound.handled other found with done | ⟨_, running⟩
      · exact .inl (done.mono kept)
      · rw [task] at running
        cases running
        cases reached : (Delivery.step worker.sink world stage).1 with
        | answered disposition => exact .inl (completed disposition reached)
        | running later => exact .inr ⟨later, by rw [next, reached]⟩
  · rw [broker]
    exact commits.mono (.refl world.broker) rfl kept
  · rw [broker]
    exact .refl world.broker

theorem Sound.commit (sound : worker.Sound world.broker processed)
    (commits : CommitsCovered world.broker processed) {message : InboundMessage}
    {disposition : Disposition}
    (task : worker.member.task = .delivering message (.answered disposition)) :
    StepSound world processed (worker.step world).1 (worker.step world).2 := by
  obtain ⟨same, subscription, next⟩ := step_of_answered world task
  obtain ⟨nonneg, covered⟩ := sound.covered_next commits task
  obtain ⟨committed, continues⟩ :
      CommitsCovered (worker.step world).2.broker processed ∧
        world.broker.Continues (worker.step world).2.broker := by
    rw [same]
    unfold World.commit
    cases world.faults.commit with
    | some error => exact ⟨commits, .refl world.broker⟩
    | none =>
        exact ⟨commits.commit ⟨message.topic, message.partition⟩ (by omega) covered,
          .of_eq rfl rfl⟩
  refine ⟨sound.of_subscription continues (List.Subset.refl _) subscription
    (fun other delivery held => ?_) (fun other found => ?_), committed, continues⟩
  · rw [next] at held
    cases held
  · rcases sound.handled other found with done | ⟨_, running⟩
    · exact .inl done
    · rw [task] at running
      cases running

/-- Whatever step a worker takes, nothing is committed that has not been processed. -/
theorem Sound.step (sound : worker.Sound world.broker processed)
    (commits : CommitsCovered world.broker processed) :
    StepSound world (processed ++ worker.completed world) (worker.step world).1
      (worker.step world).2 := by
  have nothing (none : worker.completed world = []) :
      processed ++ worker.completed world = processed := by
    rw [none, List.append_nil]
  rcases task : worker.member.task with _ | ⟨message, stage | disposition⟩
  · rw [nothing (by rw [completed, task])]
    exact sound.look commits task
  · exact sound.deliver commits task
  · rw [nothing (by rw [completed, task])]
    exact sound.commit commits task

end Worker

end Clearing
