import Clearing.Proofs.Pipeline.Acceptance
import Clearing.Proofs.Pipeline.Runs
import Clearing.Proofs.Settlement.Workers
/-!
Where deliveries come from.  Whatever way a message takes to a member, by the outbox and the
relay or directly, it is the message that the intake made of an accepted request, and the order
that is read from it is the one that was accepted.
-/

namespace Clearing

/-- A message as the intake makes it to announce a payment. -/
def OutboundMessage.MadeOf (message : OutboundMessage) (payment : ValidPayment) : Prop :=
  ∃ moment context, Date.YearInRange moment.date.year ∧
    message = .settlement message.topic (.ofPayment payment moment) context

/-- A message as it comes out of the logs that another one went into. -/
structure InboundMessage.IsCopyOf (message : InboundMessage) (sent : OutboundMessage) : Prop where
  topic : message.topic = sent.topic
  entry : message.entry = sent.entry

theorem OutboundMessage.MadeOf.askedBy {message : OutboundMessage} {payment : ValidPayment}
    (made : message.MadeOf payment) (shape : payment.order.check = .ok ()) :
    payment.order.AskedBy message.payload := by
  obtain ⟨moment, context, inRange, same⟩ := made
  rw [same]
  exact payment.askedBy_settlement shape inRange message.topic context

theorem InboundMessage.IsCopyOf.payload {message : InboundMessage} {sent : OutboundMessage}
    (copy : message.IsCopyOf sent) : message.payload = sent.payload :=
  congrArg LogEntry.payload copy.entry

/--
What was accepted so far, and for which orders it was found when a message was delivered that
they were too much for their destinations.
-/
structure Origins where
  Accepted : String → ValidPayment → Prop
  Exceeded : InboundMessage → TransferOrder → Prop
  check_of_accepted : ∀ topic payment, Accepted topic payment → payment.order.check = .ok ()

namespace Origins

structure Le (before after : Origins) : Prop where
  accepted : ∀ topic payment, before.Accepted topic payment → after.Accepted topic payment
  exceeded : ∀ message order, before.Exceeded message order → after.Exceeded message order

variable (origins : Origins)

def Genuine (message : OutboundMessage) : Prop :=
  ∃ payment, origins.Accepted message.topic payment ∧ message.MadeOf payment

/-- Nothing but genuine messages waits in the outbox or stands in a log. -/
structure Fill (world : World) : Prop where
  outbox : ∀ entry ∈ world.book.outbox.entries, origins.Genuine entry.message
  logs : ∀ name, ∀ entry ∈ world.broker.log name,
    ∃ message : OutboundMessage, origins.Genuine message ∧ message.topic = name.topic ∧
      message.entry = entry

def OfIntake (topic : String) : IntakeStage → Prop
  | .recall traced =>
      ∀ payment, traced.request.validate = .ok payment → origins.Accepted topic payment
  | .store _ message | .announce _ message => origins.Genuine message
  | .remember _ => True

def OfRelay : RelayStage → Prop
  | .load => True
  | .publish entry rest _ => ∀ pending ∈ entry :: rest, origins.Genuine pending.message
  | .mark _ rest _ => ∀ pending ∈ rest, origins.Genuine pending.message

/-- A delivery of a genuine message, which is judged fairly if it has been judged. -/
structure OfDelivery (message : InboundMessage) (delivery : Delivery) (payment : ValidPayment)
    (sent : OutboundMessage) : Prop where
  accepted : origins.Accepted sent.topic payment
  made : sent.MadeOf payment
  copy : message.IsCopyOf sent
  verdict : delivery = Delivery.begin message.payload ∨
    ∃ disposition, delivery.verdict? = some disposition ∧
      disposition.IsFair (origins.Exceeded message payment.order)

def OfMember : MemberTask → Prop
  | .idle => True
  | .delivering message delivery =>
      ∃ payment sent, origins.OfDelivery message delivery payment sent

def OfActivity : Activity → Prop
  | .intake settings call => call.AtStage (origins.OfIntake settings.topic)
  | .relay _ call => call.AtStage origins.OfRelay
  | .member worker => origins.OfMember worker.task

variable {origins} {before after : Origins} {world : World}

theorem Genuine.mono {message : OutboundMessage} (genuine : before.Genuine message)
    (le : before.Le after) : after.Genuine message := by
  obtain ⟨payment, accepted, made⟩ := genuine
  exact ⟨payment, le.accepted _ _ accepted, made⟩

theorem Fill.mono (fill : before.Fill world) (le : before.Le after) : after.Fill world where
  outbox entry member := (fill.outbox entry member).mono le
  logs name entry member := by
    obtain ⟨message, genuine, same⟩ := fill.logs name entry member
    exact ⟨message, genuine.mono le, same⟩

theorem OfMember.mono {task : MemberTask} (held : before.OfMember task)
    (le : before.Le after) : after.OfMember task := by
  cases task with
  | idle => exact trivial
  | delivering message delivery =>
      obtain ⟨payment, sent, held⟩ := held
      refine ⟨payment, sent, le.accepted _ _ held.accepted, held.made, held.copy, ?_⟩
      rcases held.verdict with begun | ⟨disposition, judged, fair⟩
      · exact .inl begun
      · exact .inr ⟨disposition, judged, fair.imp (le.exceeded _ _)⟩

theorem OfActivity.mono {activity : Activity} (held : before.OfActivity activity)
    (le : before.Le after) : after.OfActivity activity := by
  cases activity with
  | intake settings call =>
      refine Call.AtStage.imp (fun stage held => ?_) held
      cases stage with
      | «recall» traced => exact fun payment valid => le.accepted _ _ (held payment valid)
      | store record message | announce record message => exact Genuine.mono held le
      | remember record => exact trivial
  | relay batch call =>
      refine Call.AtStage.imp (fun stage held => ?_) held
      cases stage with
      | load => exact trivial
      | publish entry rest relayed | mark id rest relayed =>
          exact fun pending member => (held pending member).mono le
  | member worker => exact OfMember.mono held le

theorem Fill.of_same {next : World} (fill : origins.Fill world)
    (outbox : next.book.outbox.entries = world.book.outbox.entries)
    (logs : next.broker.logs = world.broker.logs) : origins.Fill next where
  outbox := outbox ▸ fill.outbox
  logs name entry member := by
    rw [Broker.log, logs] at member
    exact fill.logs name entry member

theorem Fill.store (fill : origins.Fill world) (record : PaymentRecord)
    {stored : Option OutboundMessage}
    (genuine : ∀ message, stored = some message → origins.Genuine message) :
    origins.Fill { world with book := world.book.store record stored } where
  outbox entry member := by
    rcases PaymentBook.mem_entries_store member with held | new
    · exact fill.outbox entry held
    · exact genuine entry.message new
  logs := fill.logs

theorem Fill.append (fill : origins.Fill world) {message : OutboundMessage}
    (genuine : origins.Genuine message) :
    origins.Fill { world with broker := (world.broker.append message).2 } where
  outbox := fill.outbox
  logs name entry member := by
    simp only [Broker.log_append] at member
    split at member
    · rename_i own
      rcases List.mem_append.mp member with held | new
      · exact fill.logs name entry held
      · rw [List.mem_singleton.mp new]
        exact ⟨message, genuine, congrArg LogName.topic own.symm, rfl⟩
    · exact fill.logs name entry member

theorem Fill.markPublished (fill : origins.Fill world) (id : Nat) :
    origins.Fill (world.markPublished id) where
  outbox entry member := by
    obtain ⟨held, earlier, rfl⟩ := List.mem_map.mp member
    split <;> exact fill.outbox held earlier
  logs := fill.logs

theorem Fill.updateStatus (fill : origins.Fill world) (id : String) (status : PaymentStatus) :
    origins.Fill (world.updateStatus id status).2 := by
  obtain ⟨answer, book, updated, after⟩ := world.exists_updateCase id status
  rw [after]
  cases updated with
  | offline _ | missing _ _ | corrupt _ _ _ _ _ | settled _ _ _ _ _
  | unchanged _ _ _ _ _ | moved _ _ _ _ _ => exact fill.of_same rfl rfl

theorem Fill.dropBalance (fill : origins.Fill world) (account : String) :
    origins.Fill (world.dropBalance account).2 := by
  unfold World.dropBalance World.cacheDelete
  cases world.faults.cacheDelete with
  | some error => exact fill
  | none => exact fill.of_same rfl rfl

theorem Fill.commit (fill : origins.Fill world) (group : String) (message : InboundMessage) :
    origins.Fill (world.commit group message).2 := by
  unfold World.commit
  cases world.faults.commit with
  | some error => exact fill
  | none => exact fill.of_same rfl rfl

theorem Fill.disturb (fill : origins.Fill world) (disturbance : Disturbance) :
    origins.Fill (world.disturb disturbance) := by
  cases disturbance <;> exact fill.of_same rfl rfl

section Intake

variable {settings : IntakeSettings}

theorem ofIntake_prepare {moment : Timestamp} (inRange : Date.YearInRange moment.date.year)
    {traced : TracedRequest}
    (accepted : origins.OfIntake settings.topic (.recall traced)) :
    (Intake.prepare settings moment traced).AtStage (origins.OfIntake settings.topic) := by
  rcases Intake.prepare_cases settings moment traced with
    ⟨error, refused⟩ | ⟨payment, valid, prepared⟩
  · rw [refused]
    exact trivial
  · rw [prepared]
    exact ⟨payment, accepted payment valid, moment, _, inRange, rfl⟩

theorem ofIntake_ofOutcome {record : PaymentRecord} {message : OutboundMessage}
    (genuine : origins.Genuine message) (outcome : Except PaymentError InsertOutcome) :
    (Intake.ofOutcome settings record message outcome).AtStage
      (origins.OfIntake settings.topic) := by
  have stored : (Intake.afterStore settings record message).AtStage
      (origins.OfIntake settings.topic) := by
    unfold Intake.afterStore
    split
    · exact trivial
    · exact genuine
  rcases outcome with error | outcome
  · cases error <;> exact trivial
  · cases outcome with
    | inserted | duplicate => exact stored
    | keyTaken owner => exact trivial

/-- A request brings only the message of its own payment into the world. -/
theorem intake_step (fill : origins.Fill world)
    (inRange : Date.YearInRange world.moment.date.year) {stage : IntakeStage}
    (held : origins.OfIntake settings.topic stage) :
    origins.Fill (Intake.step settings world stage).2 ∧
      (Intake.step settings world stage).1.AtStage (origins.OfIntake settings.topic) := by
  have taken := Intake.stepCase settings world stage
  generalize Intake.step settings world stage = result at taken ⊢
  rcases result with ⟨call, after⟩
  dsimp only at taken ⊢
  cases taken with
  | silent stage => exact ⟨fill, held⟩
  | unreadable traced => exact ⟨fill, trivial⟩
  | recalled traced entry receipt present decoded => exact ⟨fill, trivial⟩
  | missed traced store kept => exact ⟨fill.of_same rfl rfl, ofIntake_prepare inRange held⟩
  | stored record message outcome book inserted =>
      refine ⟨?_, ofIntake_ofOutcome held outcome⟩
      cases inserted with
      | offline _ | conflict _ _ _ _ | duplicate _ _ _ _ | keyTaken _ _ _ _ => exact fill
      | inserted _ _ _ =>
          refine fill.store record fun other stored => ?_
          rw [Intake.eq_of_storedMessage stored]
          exact held
  | unpublished record message => exact ⟨fill, trivial⟩
  | published record message => exact ⟨fill.append held, trivial⟩
  | unremembered record => exact ⟨fill, trivial⟩
  | remembered record => exact ⟨fill.of_same rfl rfl, trivial⟩

end Intake

theorem ofRelay_next (relayed : Nat) {entries : List OutboxEntry}
    (genuine : ∀ pending ∈ entries, origins.Genuine pending.message) :
    (RelayPass.next relayed entries).AtStage origins.OfRelay := by
  cases entries with
  | nil => exact trivial
  | cons entry rest => exact genuine

theorem relay_step (fill : origins.Fill world) (batch : Nat) {stage : RelayStage}
    (held : origins.OfRelay stage) :
    origins.Fill (RelayPass.step batch world stage).2 ∧
      (RelayPass.step batch world stage).1.AtStage origins.OfRelay := by
  have taken := RelayPass.stepCase batch world stage
  generalize RelayPass.step batch world stage = result at taken ⊢
  rcases result with ⟨call, after⟩
  dsimp only at taken ⊢
  cases taken with
  | unread error => exact ⟨fill, trivial⟩
  | loaded =>
      refine ⟨fill.of_same rfl rfl, ofRelay_next 0 fun pending member => ?_⟩
      exact fill.outbox pending (List.mem_filter.mp (List.mem_of_mem_take member)).1
  | refused entry rest relayed error => exact ⟨fill, trivial⟩
  | published entry rest relayed =>
      exact ⟨fill.append (held entry List.mem_cons_self), fun pending member =>
        held pending (List.mem_cons_of_mem _ member)⟩
  | unmarked id rest relayed error => exact ⟨fill, trivial⟩
  | marked id rest relayed => exact ⟨fill.markPublished id, ofRelay_next _ held⟩

theorem fill_deliveryStep (fill : origins.Fill world) (stage : DeliveryStage) :
    origins.Fill (Delivery.step .book world stage).2 := by
  cases stage with
  | receive payload =>
      cases decoded : SettlementEvent.decode payload with
      | error fault =>
          rw [Delivery.step, decoded]
          exact fill
      | ok event =>
          cases ordered : event.order? with
          | none =>
              rw [Delivery.step_receive_unsupported .book world decoded ordered]
              exact fill
          | some order =>
              rw [Delivery.step_receive .book world decoded ordered]
              split <;> exact fill.of_same rfl rfl
  | dropSource order | dropDestination order =>
      rw [Delivery.step]
      split
      · exact fill
      · exact fill.dropBalance _
  | record id status disposition => exact fill.updateStatus id status

/-- A delivery that has not been judged yet is judged by the ledger as it is. -/
theorem OfDelivery.step {message : InboundMessage} {stage : DeliveryStage}
    {payment : ValidPayment} {sent : OutboundMessage}
    (held : origins.OfDelivery message (.running stage) payment sent)
    (exceeds : Call.running stage = Delivery.begin message.payload → ∀ order,
      world.ledger.WouldExceed order → origins.Exceeded message order) :
    origins.OfDelivery message (Delivery.step .book world stage).1 payment sent := by
  refine ⟨held.accepted, held.made, held.copy, ?_⟩
  rcases held.verdict with begun | ⟨disposition, judged, fair⟩
  · cases begun
    have asked := held.made.askedBy (origins.check_of_accepted _ _ held.accepted)
    rw [← held.copy.payload] at asked
    rcases Delivery.step_receive_eq_or .book world message.payload with same | ⟨judged, _⟩
    · rw [same]
      exact .inl rfl
    · exact .inr ⟨_, judged, (asked.isFair world.ledger).imp (exceeds rfl _)⟩
  · exact .inr ⟨disposition, (Delivery.step_of_verdict? .book world judged).1, fair⟩

theorem Fill.exists_sent (fill : origins.Fill world) {consumer after : Consumer}
    {message : InboundMessage}
    (fetched : consumer.fetch world.broker = (.ok (some message), after)) :
    ∃ sent, origins.Genuine sent ∧ message.IsCopyOf sent := by
  have looked := consumer.lookCase world.broker
  rw [fetched] at looked
  cases looked with
  | message _ _ _ found _ =>
      obtain ⟨_, present⟩ := Consumer.messageAt_eq_some_iff.mp found
      rw [Broker.getElem?_messages] at present
      obtain ⟨entry, stands, shape⟩ := Option.map_eq_some_iff.mp present
      obtain ⟨sent, genuine, topic, same⟩ :=
        fill.logs _ entry (List.mem_of_getElem? stands)
      refine ⟨sent, genuine, ?_, ?_⟩
      · rw [← shape, topic]
        rfl
      · rw [← shape, same]
        rfl

theorem member_step (fill : origins.Fill world) {member : Member}
    (exceeds : ∀ message, member.task = .delivering message (Delivery.begin message.payload) →
      ∀ order, world.ledger.WouldExceed order → origins.Exceeded message order)
    (held : origins.OfMember member.task) :
    origins.Fill (member.step .book world).2.2 ∧
      origins.OfMember (member.step .book world).2.1.task := by
  rw [Member.step]
  rcases shape : member.task with _ | ⟨message, stage | disposition⟩
  · dsimp only
    rcases fetched : member.consumer.fetch world.broker with ⟨answer, consumer⟩
    rw [Member.fetch, fetched]
    rcases answer with error | _ | message
    · exact ⟨fill, shape ▸ trivial⟩
    · exact ⟨fill, shape ▸ trivial⟩
    · obtain ⟨sent, ⟨payment, accepted, made⟩, copy⟩ := fill.exists_sent fetched
      exact ⟨fill, payment, sent, accepted, made, copy, .inl rfl⟩
  · rw [shape] at held
    obtain ⟨payment, sent, delivered⟩ := held
    refine ⟨fill_deliveryStep fill stage, payment, sent, delivered.step fun begun => ?_⟩
    exact exceeds message (shape.trans (congrArg (MemberTask.delivering message) begun))
  · dsimp only
    have idle := (member.commit_sound world message).2
    refine ⟨?_, by rw [idle]; exact trivial⟩
    have committed := fill.commit member.consumer.group message
    rw [Member.commit]
    rcases told : world.commit member.consumer.group message with ⟨answer, after⟩
    rw [told] at committed
    cases answer <;> exact committed

theorem activity_step (fill : origins.Fill world)
    (inRange : Date.YearInRange world.moment.date.year) {activity : Activity}
    (exceeds : ∀ worker message, activity = .member worker →
      worker.task = .delivering message (Delivery.begin message.payload) →
      ∀ order, world.ledger.WouldExceed order → origins.Exceeded message order)
    (held : origins.OfActivity activity) :
    origins.Fill (activity.step world).2 ∧
      origins.OfActivity (activity.step world).1 := by
  cases activity with
  | intake settings call =>
      cases call with
      | answered answer => exact ⟨fill, trivial⟩
      | running stage => exact intake_step fill inRange held
  | relay batch call =>
      cases call with
      | answered answer => exact ⟨fill, trivial⟩
      | running stage => exact relay_step fill batch held
  | member worker => exact member_step fill (fun message => exceeds worker message rfl) held

end Origins

namespace Pipeline

/-- What has been accepted and exceeded in the course of a run. -/
def origins (partitions : Int) (events : List PipelineEvent) : Origins where
  Accepted topic payment := ∃ settings traced,
    .start (.request settings traced) ∈ events ∧ traced.request.validate = .ok payment ∧
      topic = settings.topic
  Exceeded message order := ∃ before place rest worker,
    events = before ++ .step place :: rest ∧
      ((initial partitions).after before).activities[place]? = some (.member worker) ∧
      worker.task = .delivering message (Delivery.begin message.payload) ∧
      ((initial partitions).after before).world.ledger.WouldExceed order
  check_of_accepted := by
    rintro topic payment ⟨settings, traced, _, valid, _⟩
    exact PaymentRequest.check_order_of_validate valid

theorem origins_le (partitions : Int) (events more : List PipelineEvent) :
    (origins partitions events).Le (origins partitions (events ++ more)) where
  accepted := by
    rintro topic payment ⟨settings, traced, member, valid, same⟩
    exact ⟨settings, traced, List.mem_append_left more member, valid, same⟩
  exceeded := by
    rintro message order ⟨before, place, rest, worker, rfl, exceeds⟩
    exact ⟨before, place, rest ++ more, worker, by simp, exceeds⟩

structure Genuine (origins : Origins) (pipeline : Pipeline) : Prop where
  fill : origins.Fill pipeline.world
  activities : ∀ activity ∈ pipeline.activities, origins.OfActivity activity

theorem genuine_initial (origins : Origins) (partitions : Int) :
    (initial partitions).Genuine origins where
  fill :=
    { outbox := fun entry member => by cases member
      logs := fun name entry member => by cases member }
  activities activity member := by cases member

variable {origins : Origins} {pipeline : Pipeline}

theorem Genuine.mono {after : Origins} (genuine : pipeline.Genuine origins)
    (le : origins.Le after) : pipeline.Genuine after where
  fill := genuine.fill.mono le
  activities activity member := (genuine.activities activity member).mono le

theorem ofActivity_beginning {beginning : Beginning}
    (accepted : ∀ settings traced payment, beginning = .request settings traced →
      traced.request.validate = .ok payment → origins.Accepted settings.topic payment) :
    origins.OfActivity beginning.activity := by
  cases beginning with
  | request settings traced =>
      change (Intake.begin traced).AtStage (origins.OfIntake settings.topic)
      rw [Intake.begin]
      split
      · exact trivial
      · exact fun payment valid => accepted settings traced payment rfl valid
  | relay batch | member group topic => exact trivial

theorem Genuine.apply (genuine : pipeline.Genuine origins) (event : PipelineEvent)
    (inRange : Date.YearInRange pipeline.world.moment.date.year)
    (accepted : ∀ settings traced payment, event = .start (.request settings traced) →
      traced.request.validate = .ok payment → origins.Accepted settings.topic payment)
    (exceeds : ∀ place worker message, event = .step place →
      pipeline.activities[place]? = some (.member worker) →
      worker.task = .delivering message (Delivery.begin message.payload) →
      ∀ order, pipeline.world.ledger.WouldExceed order → origins.Exceeded message order) :
    (pipeline.apply event).Genuine origins := by
  cases event with
  | start beginning =>
      refine ⟨genuine.fill, fun activity member => ?_⟩
      rcases List.mem_append.mp member with earlier | new
      · exact genuine.activities activity earlier
      · rw [List.mem_singleton.mp new]
        exact ofActivity_beginning fun settings traced payment same =>
          accepted settings traced payment (congrArg PipelineEvent.start same)
  | step place =>
      simp only [Pipeline.apply]
      split
      · exact genuine
      · rename_i activity present
        obtain ⟨fill, next⟩ := Origins.activity_step genuine.fill inRange
          (fun worker message own => exceeds place worker message rfl (own ▸ present))
          (genuine.activities activity (List.mem_of_getElem? present))
        refine ⟨fill, fun other member => ?_⟩
        rcases List.mem_or_eq_of_mem_set member with earlier | rfl
        · exact genuine.activities other earlier
        · exact next
  | lose place =>
      exact ⟨genuine.fill, fun activity member =>
        genuine.activities activity (List.mem_of_mem_eraseIdx member)⟩
  | disturb disturbance =>
      exact ⟨genuine.fill.disturb disturbance, genuine.activities⟩

theorem genuine_after (partitions : Int) (events : List PipelineEvent) :
    ((initial partitions).after events).Genuine (Pipeline.origins partitions events) := by
  -- on the end of the run, since the origins grow with it
  induction events using List.reverseRecOn with
  | nil => exact genuine_initial _ partitions
  | append_singleton events event inductionHypothesis =>
      have sound : ((initial partitions).after events).Sound :=
        (sound_initial partitions).after events
      rw [after_concat]
      apply (inductionHypothesis.mono (origins_le partitions events [event])).apply event
      · exact sound.consistent.inRange
      · rintro settings traced payment rfl valid
        exact ⟨settings, traced, List.mem_append_right _ (List.mem_singleton.mpr rfl), valid, rfl⟩
      · rintro place worker message rfl present begun order exceeded
        exact ⟨events, place, [], worker, rfl, present, begun, exceeded⟩

/--
What the intake accepts, the ledger finds well-formed.  The message that announces an accepted
payment is read as the order of that payment and never gets a verdict that an order without a
flaw would not get.  In every run of a deployment each message in the hands of a member is such
a message, unchanged, and it is judged so; an order is judged invalid only if its destination
would have come to hold too much when the ledger was told of that message.
-/
theorem deliveries_carry_accepted_payments :
    (∀ (request : PaymentRequest) (payment : ValidPayment), request.validate = .ok payment →
      ∀ (topic : String) (moment : Timestamp) (context : TraceContext),
        Date.YearInRange moment.date.year →
        let message := OutboundMessage.settlement topic (.ofPayment payment moment) context
        payment.order.AskedBy message.payload ∧
        ∀ (sink : StatusSink) (world : World) (disposition : Disposition),
          (world.settle sink message.payload).1 = .answered disposition →
            disposition.IsFair (world.ledger.WouldExceed payment.order)) ∧
    ∀ (partitions : Int) (events : List PipelineEvent) (worker : Member),
      .member worker ∈ ((initial partitions).after events).activities →
      ∀ message delivery, worker.task = .delivering message delivery →
        ∃ settings traced payment sent,
          .start (.request settings traced) ∈ events ∧
          traced.request.validate = .ok payment ∧
          sent.topic = settings.topic ∧ sent.MadeOf payment ∧ message.IsCopyOf sent ∧
          payment.order.AskedBy message.payload ∧
          ∀ disposition, delivery.verdict? = some disposition →
            disposition.IsFair (∃ before place rest teller,
              events = before ++ .step place :: rest ∧
                ((initial partitions).after before).activities[place]? = some (.member teller) ∧
                teller.task = .delivering message (Delivery.begin message.payload) ∧
                ((initial partitions).after before).world.ledger.WouldExceed payment.order) := by
  constructor
  · intro request payment valid topic moment context inRange message
    have asked := payment.askedBy_settlement (PaymentRequest.check_order_of_validate valid)
      inRange topic context
    refine ⟨asked, fun sink world disposition answered => ?_⟩
    have fair := asked.isFair world.ledger
    obtain ⟨event, decoded, _⟩ := asked
    rw [Disposition.ofPayload, decoded] at fair
    rw [← (World.verdict_of_settle decoded answered).1]
    exact fair
  · intro partitions events worker present message delivery task
    have held := (genuine_after partitions events).activities _ present
    change (Pipeline.origins partitions events).OfMember worker.task at held
    rw [task] at held
    obtain ⟨payment, sent, accepted, made, copy, verdict⟩ := held
    obtain ⟨settings, traced, started, valid, topic⟩ := accepted
    have asked := made.askedBy (PaymentRequest.check_order_of_validate valid)
    rw [← copy.payload] at asked
    refine ⟨settings, traced, payment, sent, started, valid, topic, made, copy, asked, ?_⟩
    intro disposition judged
    rcases verdict with begun | ⟨other, known, fair⟩
    · rw [begun] at judged
      cases judged
    · rw [known] at judged
      rw [← Option.some.inj judged]
      exact fair

def verdictAt? (pipeline : Pipeline) (place : Nat) : Option Disposition :=
  match pipeline.activities[place]? with
  | some (.member { task := .delivering _ delivery, .. }) => delivery.verdict?
  | _ => none

theorem exists_of_verdictAt? {place : Nat} {disposition : Disposition}
    (known : pipeline.verdictAt? place = some disposition) :
    ∃ worker message delivery, .member worker ∈ pipeline.activities ∧
      worker.task = .delivering message delivery ∧ delivery.verdict? = some disposition := by
  unfold verdictAt? at known
  split at known
  · rename_i consumer stats message delivery present
    exact ⟨_, message, delivery, List.mem_of_getElem? present, rfl, known⟩
  · cases known

/-- The rent is paid to someone who holds almost as much as an account may hold. -/
def fullDestination : List PipelineEvent :=
  [.disturb (.openAccount
      { id := rentRequest.request.source
        currency := .dollar
        balance := { coefficient := 523600000000000, scale := 11 } }),
    .disturb (.openAccount
      { id := rentRequest.request.destination
        currency := .dollar
        balance :=
          { maximumAmount with
            coefficient := 99999999999999999950
            bounded := by decide
            eq_zero_of_minusZero := nofun } }),
    .start (.request
      { dispatch := .outbox
        topic := "settlements"
        lifetime := 1 }
      rentRequest),
    .step 0, .step 0, .step 0, .start (.relay 1), .step 1, .step 1, .step 1,
    .start (.member "ledger" "settlements"), .step 2, .step 2]

theorem deliveries_carry_accepted_payments_fullDestination :
    ∃ payment, rentRequest.request.validate = .ok payment ∧
      payment.order.AskedBy
        (OutboundMessage.settlement "settlements" (.ofPayment payment .sample)
          rentRequest.context).payload ∧
      ∃ worker message delivery,
        .member worker ∈ ((initial 1).after fullDestination).activities ∧
        worker.task = .delivering message delivery ∧
        delivery.verdict? = some (.rejected "INVALID_TRANSFER") ∧
        ∃ order before place rest, order.AskedBy message.payload ∧
          fullDestination = before ++ .step place :: rest ∧
          ((initial 1).after before).world.ledger.WouldExceed order := by
  obtain ⟨validated, delivered⟩ := deliveries_carry_accepted_payments
  have accepted : rentRequest.request.validate.toOption.isSome := by
    decide +kernel
  obtain ⟨payment, found⟩ := Option.isSome_iff_exists.mp accepted
  have valid := eq_ok_of_toOption_eq_some found
  obtain ⟨asked, _⟩ := validated _ payment valid "settlements" .sample rentRequest.context
    (by decide)
  have judged : ((initial 1).after fullDestination).verdictAt? 2 =
      some (.rejected "INVALID_TRANSFER") := by
    decide +kernel
  obtain ⟨worker, message, delivery, present, task, known⟩ := exists_of_verdictAt? judged
  obtain ⟨_, _, other, _, _, _, _, _, _, read, fair⟩ :=
    delivered 1 fullDestination worker present message delivery task
  obtain ⟨before, place, rest, _, split, _, _, exceeds⟩ := (fair _ known).exceeds rfl
  exact ⟨payment, valid, asked, worker, message, delivery, present, task, known,
    other.order, before, place, rest, read, split, exceeds⟩

end Pipeline

end Clearing
