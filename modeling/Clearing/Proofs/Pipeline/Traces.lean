import Clearing.Proofs.Bus.Relay
import Clearing.Proofs.Pipeline.Runs
import Clearing.Proofs.Settlement.Workers
import Clearing.Proofs.Trace.Headers
import Clearing.Proofs.World.Mail
/-!
Traces from requests to consumers.  Whatever a request puts into the outbox or onto the bus, and
whatever the relay makes of it, goes on with the trace of that request, and so does every message
that a consumer is handed.
-/

namespace Clearing

/-- A header list goes on with the trace and the flags of a context, in a span of its own. -/
def TraceContext.GoesOnIn (context : TraceContext) (headers : Headers) : Prop :=
  ∃ next, extract headers = some next ∧ next.trace = context.trace ∧
    next.flags = context.flags ∧ 0 < next.span.number

theorem TraceContext.goesOnIn_settlement (context : TraceContext) (span : Span) (topic : String)
    (event : SettlementEvent) :
    context.GoesOnIn (OutboundMessage.settlement topic event (context.child span)).headers :=
  ⟨context.child span, (context.child span).extract_inject [], rfl, rfl, span.positive⟩

/-- What a request has in hand goes on with its trace. -/
def TracedRequest.AtStage (traced : TracedRequest) : IntakeStage → Prop
  | .recall own => own = traced
  | .store _ message | .announce _ message => traced.context.GoesOnIn message.headers
  | .remember _ => True

def RelayStage.InOutbox (world : World) : RelayStage → Prop
  | .load => True
  | .publish entry rest _ => ∀ pending ∈ entry :: rest, world.Holds pending
  | .mark _ rest _ => ∀ pending ∈ rest, world.Holds pending

def MemberTask.InLog (world : World) : MemberTask → Prop
  | .idle => True
  | .delivering message _ => world.headersAt? message.place = some message.headers

/-- An activity that handles a request, or nobody's. -/
def Activity.ActsFor (world : World) : Activity → Option TracedRequest → Prop
  | .intake _ call, some traced => call.AtStage traced.AtStage
  | .relay _ call, none => call.AtStage (RelayStage.InOutbox world)
  | .member worker, none => worker.task.InLog world
  | .intake _ _, none | .relay _ _, some _ | .member _, some _ => False

def Activity.MaySend : Activity → Option TracedRequest → Headers → Prop
  | .intake _ _, some traced, headers => traced.context.GoesOnIn headers
  | .relay _ (.running (.publish entry _ _)), none, headers => headers = entry.message.headers
  | _, _, _ => False

namespace Intake

variable {settings : IntakeSettings} {traced : TracedRequest}

theorem atStage_prepare (moment : Timestamp) :
    (prepare settings moment traced).AtStage traced.AtStage := by
  rcases prepare_cases settings moment traced with
    ⟨error, refused⟩ | ⟨payment, valid, prepared⟩
  · rw [refused]
    exact trivial
  · rw [prepared]
    exact traced.context.goesOnIn_settlement traced.span settings.topic _

theorem atStage_ofOutcome {record : PaymentRecord} {message : OutboundMessage}
    (goesOn : traced.context.GoesOnIn message.headers)
    (outcome : Except PaymentError InsertOutcome) :
    (ofOutcome settings record message outcome).AtStage traced.AtStage := by
  have stored : (afterStore settings record message).AtStage traced.AtStage := by
    unfold afterStore
    split
    · exact trivial
    · exact goesOn
  rcases outcome with error | outcome
  · cases error <;> exact trivial
  · cases outcome with
    | inserted | duplicate => exact stored
    | keyTaken owner => exact trivial

theorem posts_step (world : World) {stage : IntakeStage} (acts : traced.AtStage stage) :
    world.Posts (step settings world stage).2 traced.context.GoesOnIn ∧
      (step settings world stage).1.AtStage traced.AtStage := by
  have taken := stepCase settings world stage
  generalize step settings world stage = result at taken ⊢
  rcases result with ⟨call, after⟩
  dsimp only at taken ⊢
  cases taken with
  | silent stage => exact ⟨.refl world _, acts⟩
  | unreadable other => exact ⟨.refl world _, trivial⟩
  | recalled other entry receipt present decoded => exact ⟨.refl world _, trivial⟩
  | missed other store kept =>
      cases acts
      exact ⟨.of_eq rfl rfl, atStage_prepare world.moment⟩
  | stored record message outcome book inserted =>
      refine ⟨?_, atStage_ofOutcome acts outcome⟩
      cases inserted with
      | offline _ | conflict _ _ _ _ | duplicate _ _ _ _ | keyTaken _ _ _ _ =>
          exact .refl world _
      | inserted _ _ _ =>
          refine world.posts_store record fun other stored => ?_
          rw [eq_of_storedMessage stored]
          exact acts
  | unpublished record message => exact ⟨.refl world _, trivial⟩
  | published record message => exact ⟨world.posts_append acts, trivial⟩
  | unremembered record => exact ⟨.refl world _, trivial⟩
  | remembered record => exact ⟨.of_eq rfl rfl, trivial⟩

end Intake

theorem RelayStage.InOutbox.of_posts {before after : World} {Sent : Headers → Prop}
    (posts : before.Posts after Sent) {stage : RelayStage} (lies : stage.InOutbox before) :
    stage.InOutbox after := by
  cases stage with
  | load => exact trivial
  | publish entry rest relayed | mark id rest relayed =>
      exact fun pending member => posts.keeps (lies pending member)

namespace RelayPass

theorem inOutbox_next {world : World} (relayed : Nat) {entries : List OutboxEntry}
    (lie : ∀ pending ∈ entries, world.Holds pending) :
    (next relayed entries).AtStage (RelayStage.InOutbox world) := by
  cases entries with
  | nil => exact trivial
  | cons entry rest => exact lie

theorem posts_step (batch : Nat) {world : World} (numbered : world.Numbered)
    {stage : RelayStage} (lies : stage.InOutbox world) :
    world.Posts (step batch world stage).2
        (Activity.MaySend (.relay batch (.running stage)) none) ∧
      (step batch world stage).1.AtStage
        (RelayStage.InOutbox (step batch world stage).2) := by
  have taken := stepCase batch world stage
  generalize step batch world stage = result at taken ⊢
  rcases result with ⟨pass, after⟩
  dsimp only at taken ⊢
  cases taken with
  | unread error => exact ⟨.refl world _, trivial⟩
  | loaded =>
      refine ⟨.of_eq rfl rfl, inOutbox_next 0 fun pending member => ?_⟩
      exact numbered.holds (List.mem_filter.mp (List.mem_of_mem_take member)).1
  | refused entry rest relayed error => exact ⟨.refl world _, trivial⟩
  | published entry rest relayed =>
      have posts : world.Posts { world with broker := (world.broker.append entry.message).2 }
          (Activity.MaySend (.relay batch (.running (.publish entry rest relayed))) none) :=
        world.posts_append rfl
      exact ⟨posts, fun pending member =>
        posts.keeps (lies pending (List.mem_cons_of_mem _ member))⟩
  | unmarked id rest relayed error => exact ⟨.refl world _, trivial⟩
  | marked id rest relayed =>
      have posts : world.Posts (world.markPublished id)
          (Activity.MaySend (.relay batch (.running (.mark id rest relayed))) none) :=
        world.posts_markPublished id
      exact ⟨posts, inOutbox_next _ fun pending member => posts.keeps (lies pending member)⟩

end RelayPass

theorem Delivery.posts_step (world : World) (stage : DeliveryStage) (Sent : Headers → Prop) :
    world.Posts (step .book world stage).2 Sent := by
  refine .of_eq ?_ (by rw [broker_step])
  cases stage with
  | receive payload =>
      cases decoded : SettlementEvent.decode payload with
      | error fault => rw [step, decoded]
      | ok event =>
          cases ordered : event.order? with
          | none => rw [step_receive_unsupported .book world decoded ordered]
          | some order =>
              rw [step_receive .book world decoded ordered]
              split <;> rfl
  | dropSource order | dropDestination order =>
      simp only [step, World.dropBalance, World.cacheDelete]
      repeat' split
      all_goals rfl
  | record id status disposition =>
      obtain ⟨answer, book, updated, after⟩ := world.exists_updateCase id status
      rw [step, after]
      cases updated <;> rfl

theorem Member.posts_commit (member : Member) (world : World) (message : InboundMessage)
    (Sent : Headers → Prop) : world.Posts (member.commit world message).2 Sent := by
  unfold commit World.commit
  cases world.faults.commit <;> exact .of_eq rfl rfl

theorem Member.posts_step {world : World} {member : Member}
    (lies : member.task.InLog world) (Sent : Headers → Prop) :
    world.Posts (member.step .book world).2.2 Sent ∧
      (member.step .book world).2.1.task.InLog (member.step .book world).2.2 := by
  rw [step]
  rcases shape : member.task with _ | ⟨message, stage | disposition⟩
  · dsimp only
    rcases fetched : member.consumer.fetch world.broker with ⟨answer, consumer⟩
    rw [fetch, fetched]
    rcases answer with error | _ | message
    · exact ⟨.refl world _, shape ▸ trivial⟩
    · exact ⟨.refl world _, shape ▸ trivial⟩
    · exact ⟨.refl world _, World.headersAt?_place_of_fetch fetched⟩
  · rw [shape] at lies
    have posts := Delivery.posts_step world stage Sent
    exact ⟨posts, posts.keeps lies⟩
  · have idle := (member.commit_sound world message).2
    exact ⟨member.posts_commit world message Sent, by rw [idle]; exact trivial⟩

namespace Activity

variable {before after : World} {activity : Activity} {asker : Option TracedRequest}

theorem ActsFor.of_posts {Sent : Headers → Prop} (acts : activity.ActsFor before asker)
    (posts : before.Posts after Sent) : activity.ActsFor after asker := by
  cases activity with
  | intake settings call => cases asker <;> exact acts
  | relay batch call =>
      cases asker with
      | none => exact Call.AtStage.imp (fun _ lies => lies.of_posts posts) acts
      | some traced => exact acts
  | member worker =>
      cases asker with
      | some traced => exact acts
      | none =>
          rcases shape : worker.task with _ | ⟨message, delivery⟩
          · simp only [ActsFor, shape, MemberTask.InLog]
          · simp only [ActsFor, shape, MemberTask.InLog] at acts ⊢
            exact posts.keeps acts

/-- A step sends nothing but what it may, and leaves the activity to whom it belongs. -/
theorem posts_step {world : World} (numbered : world.Numbered)
    (acts : activity.ActsFor world asker) :
    world.Posts (activity.step world).2 (activity.MaySend asker) ∧
      (activity.step world).1.ActsFor (activity.step world).2 asker := by
  cases activity with
  | intake settings call =>
      cases asker with
      | none => exact acts.elim
      | some traced =>
          cases call with
          | answered answer => exact ⟨.refl world _, trivial⟩
          | running stage => exact Intake.posts_step world acts
  | relay batch call =>
      cases asker with
      | some traced => exact acts.elim
      | none =>
          cases call with
          | answered answer => exact ⟨.refl world _, trivial⟩
          | running stage => exact RelayPass.posts_step batch numbered acts
  | member worker =>
      cases asker with
      | some traced => exact acts.elim
      | none => exact Member.posts_step acts _

theorem ActsFor.goesOn_of_maySend {world : World} {traced : TracedRequest} {headers : Headers}
    (acts : activity.ActsFor world (some traced))
    (sent : activity.MaySend (some traced) headers) : traced.context.GoesOnIn headers := by
  cases activity with
  | intake settings call => exact sent
  | relay batch call | member worker => exact acts.elim

theorem ActsFor.lies_of_delivering {world : World} {worker : Member} {message : InboundMessage}
    {delivery : Delivery} (acts : (Activity.member worker).ActsFor world asker)
    (task : worker.task = .delivering message delivery) :
    world.headersAt? message.place = some message.headers := by
  cases asker with
  | some traced => exact acts.elim
  | none =>
      simp only [ActsFor, task] at acts
      exact acts

/-- Only requests and the relay send anything, and the relay what lies in the outbox. -/
theorem MaySend.cases_of_actsFor {world : World} {headers : Headers}
    (sent : activity.MaySend asker headers) (acts : activity.ActsFor world asker) :
    (∃ traced, asker = some traced) ∨
      ∃ batch entry rest relayed,
        activity = .relay batch (.running (.publish entry rest relayed)) ∧
          world.Holds entry := by
  cases asker with
  | some traced => exact .inl ⟨traced, rfl⟩
  | none =>
      cases activity with
      | intake settings call => exact acts.elim
      | member worker => exact sent.elim
      | relay batch call =>
          rcases call with stage | answer
          · cases stage with
            | load | mark _ _ _ => exact sent.elim
            | publish entry rest relayed =>
                exact .inr ⟨batch, entry, rest, relayed, rfl, acts entry List.mem_cons_self⟩
          · exact sent.elim

end Activity

def Beginning.traced? : Beginning → Option TracedRequest
  | .request _ traced => some traced
  | .relay _ | .member _ _ => none

theorem Beginning.actsFor_activity (beginning : Beginning) (world : World) :
    beginning.activity.ActsFor world beginning.traced? := by
  cases beginning with
  | request settings traced =>
      change (Intake.begin traced).AtStage traced.AtStage
      rw [Intake.begin]
      split
      · exact trivial
      · exact rfl
  | relay batch | member group topic => exact trivial

namespace Pipeline

def askersAfter (askers : List (Option TracedRequest)) :
    PipelineEvent → List (Option TracedRequest)
  | .start beginning => askers ++ [beginning.traced?]
  | .lose place => askers.eraseIdx place
  | .step _ | .disturb _ => askers

def askers (events : List PipelineEvent) : List (Option TracedRequest) :=
  events.foldl askersAfter []

theorem askers_concat (events : List PipelineEvent) (event : PipelineEvent) :
    askers (events ++ [event]) = askersAfter (askers events) event := by
  simp only [askers, List.foldl_append, List.foldl_cons, List.foldl_nil]

theorem exists_start_of_asker {events : List PipelineEvent} {traced : TracedRequest}
    (asks : some traced ∈ askers events) :
    ∃ settings, .start (.request settings traced) ∈ events := by
  induction events using List.reverseRecOn with
  | nil => cases asks
  | append_singleton events event inductionHypothesis =>
      have earlier (asked : some traced ∈ askers events) :
          ∃ settings, .start (.request settings traced) ∈ events ++ [event] := by
        obtain ⟨settings, started⟩ := inductionHypothesis asked
        exact ⟨settings, List.mem_append_left _ started⟩
      rw [askers_concat] at asks
      cases event with
      | lose place => exact earlier (List.mem_of_mem_eraseIdx asks)
      | step _ | disturb _ => exact earlier asks
      | start beginning =>
          rcases List.mem_append.mp asks with asked | new
          · exact earlier asked
          · cases beginning with
            | relay _ | member _ _ => simp [Beginning.traced?] at new
            | request settings other =>
                cases List.mem_singleton.mp new
                exact ⟨settings, List.mem_append_right _ (List.mem_singleton.mpr rfl)⟩

/-- After the events, the next step of an activity puts something where nothing was. -/
def Fills (partitions : Int) (events : List PipelineEvent) (activity : Nat)
    (place : MailPlace) : Prop :=
  ((initial partitions).after events).world.headersAt? place = none ∧
    ((initial partitions).after (events ++ [.step activity])).world.headersAt? place ≠ none

/--
A request put the message at a place there, in a step of its own or because the relay published
what it had put into the outbox.
-/
inductive PutBy (partitions : Int) (traced : TracedRequest) :
    List PipelineEvent → MailPlace → Prop where
  | request {events : List PipelineEvent} {activity : Nat} {place : MailPlace} :
      (askers events)[activity]? = some (some traced) →
      Fills partitions events activity place →
      PutBy partitions traced (events ++ [.step activity]) place
  | relayed {events : List PipelineEvent} {activity batch relayed : Nat} {entry : OutboxEntry}
      {rest : List OutboxEntry} {place : MailPlace} :
      ((initial partitions).after events).activities[activity]? =
        some (.relay batch (.running (.publish entry rest relayed))) →
      PutBy partitions traced events (.outbox entry.id) →
      Fills partitions events activity place →
      PutBy partitions traced (events ++ [.step activity]) place
  | earlier {events : List PipelineEvent} {place : MailPlace} (event : PipelineEvent) :
      PutBy partitions traced events place →
      PutBy partitions traced (events ++ [event]) place

/-- Every activity acts for its asker, and the outbox is numbered. -/
structure Attributed (pipeline : Pipeline) (askers : List (Option TracedRequest)) : Prop where
  numbered : pipeline.world.Numbered
  length_eq : pipeline.activities.length = askers.length
  actsFor : ∀ (place : Nat) activity asker, pipeline.activities[place]? = some activity →
    askers[place]? = some asker → activity.ActsFor pipeline.world asker

variable {pipeline : Pipeline} {askers : List (Option TracedRequest)}

theorem Attributed.exists_asker (attributed : pipeline.Attributed askers) {place : Nat}
    {activity : Activity} (present : pipeline.activities[place]? = some activity) :
    ∃ asker, askers[place]? = some asker ∧ activity.ActsFor pipeline.world asker := by
  obtain ⟨inside, _⟩ := List.getElem?_eq_some_iff.mp present
  rw [attributed.length_eq] at inside
  have own := List.getElem?_eq_getElem inside
  exact ⟨_, own, attributed.actsFor place activity _ present own⟩

/-- What one event sends, and that it leaves every activity to whom it belongs. -/
theorem Attributed.apply (attributed : pipeline.Attributed askers) (event : PipelineEvent) :
    pipeline.world.Posts (pipeline.apply event).world (fun headers =>
      ∃ place activity asker, event = .step place ∧
        pipeline.activities[place]? = some activity ∧ askers[place]? = some asker ∧
        activity.MaySend asker headers) ∧
    (pipeline.apply event).Attributed (askersAfter askers event) := by
  cases event with
  | start beginning =>
      refine ⟨.refl _ _, attributed.numbered, ?_, fun place activity asker present own => ?_⟩
      · simp [Pipeline.apply, askersAfter, attributed.length_eq]
      · simp only [Pipeline.apply, askersAfter, List.getElem?_append,
          attributed.length_eq] at present own
        split at present
        · rename_i inside
          rw [if_pos inside] at own
          exact attributed.actsFor place activity asker present own
        · rename_i past
          rw [List.getElem?_singleton, Option.ite_none_right_eq_some] at present
          rw [if_neg past, List.getElem?_singleton, Option.ite_none_right_eq_some] at own
          cases present.2
          cases own.2
          exact beginning.actsFor_activity pipeline.world
  | step place =>
      simp only [Pipeline.apply, askersAfter]
      split
      · exact ⟨.refl _ _, attributed⟩
      · rename_i activity present
        obtain ⟨asker, own, acts⟩ := attributed.exists_asker present
        obtain ⟨posts, next⟩ := Activity.posts_step attributed.numbered acts
        refine ⟨posts.imp fun headers sent => ⟨place, activity, asker, rfl, present, own, sent⟩,
          posts.numbered attributed.numbered, by simp [attributed.length_eq],
          fun other found foundAsker foundPresent foundOwn => ?_⟩
        rw [List.getElem?_set] at foundPresent
        split at foundPresent
        · rename_i same
          subst same
          rw [own] at foundOwn
          cases foundOwn
          split at foundPresent
          · cases foundPresent
            exact next
          · cases foundPresent
        · exact (attributed.actsFor other found foundAsker foundPresent foundOwn).of_posts posts
  | lose place =>
      refine ⟨.refl _ _, attributed.numbered, ?_, fun other activity asker present own => ?_⟩
      · simp [Pipeline.apply, askersAfter, List.length_eraseIdx, attributed.length_eq]
      · simp only [Pipeline.apply, askersAfter, List.getElem?_eraseIdx] at present own
        split at present
        · rename_i before
          rw [if_pos before] at own
          exact attributed.actsFor _ activity asker present own
        · rename_i behind
          rw [if_neg behind] at own
          exact attributed.actsFor _ activity asker present own
  | disturb disturbance =>
      have posts (Sent : Headers → Prop) :
          pipeline.world.Posts (pipeline.world.disturb disturbance) Sent :=
        pipeline.world.posts_disturb disturbance
      refine ⟨posts _, (posts fun _ => False).numbered attributed.numbered, attributed.length_eq,
        fun place activity asker present own => ?_⟩
      exact (attributed.actsFor place activity asker present own).of_posts (posts fun _ => False)

theorem attributed_initial (partitions : Int) : (initial partitions).Attributed [] where
  numbered := rfl
  length_eq := rfl
  actsFor place activity asker present _ := by cases present

theorem attributed_after (partitions : Int) (events : List PipelineEvent) :
    ((initial partitions).after events).Attributed (Pipeline.askers events) := by
  induction events using List.reverseRecOn with
  | nil => exact attributed_initial partitions
  | append_singleton events event inductionHypothesis =>
      rw [after_concat, askers_concat]
      exact (inductionHypothesis.apply event).2

theorem posts_concat (partitions : Int) (events : List PipelineEvent) (event : PipelineEvent) :
    ((initial partitions).after events).world.Posts
      ((initial partitions).after (events ++ [event])).world (fun headers =>
        ∃ place activity asker, event = .step place ∧
          ((initial partitions).after events).activities[place]? = some activity ∧
          (Pipeline.askers events)[place]? = some asker ∧ activity.MaySend asker headers) := by
  rw [after_concat]
  exact ((attributed_after partitions events).apply event).1

theorem Fills.exists_sent {partitions : Int} {events : List PipelineEvent} {activity : Nat}
    {place : MailPlace} (fills : Fills partitions events activity place) :
    ∃ actor asker headers,
      ((initial partitions).after events).activities[activity]? = some actor ∧
      (Pipeline.askers events)[activity]? = some asker ∧
      actor.ActsFor ((initial partitions).after events).world asker ∧
      ((initial partitions).after (events ++ [.step activity])).world.headersAt? place =
        some headers ∧
      actor.MaySend asker headers := by
  obtain ⟨empty, filled⟩ := fills
  obtain ⟨headers, found⟩ := Option.ne_none_iff_exists'.mp filled
  rcases (posts_concat partitions events (.step activity)).held_or_sent found with
    held | ⟨_, other, actor, asker, same, present, own, sent⟩
  · rw [empty] at held
    cases held
  · cases same
    exact ⟨actor, asker, headers, present, own,
      (attributed_after partitions events).actsFor activity actor asker present own, found, sent⟩

/-- Where a request has put a message, there lies one that goes on with its trace. -/
theorem PutBy.goesOn {partitions : Int} {traced : TracedRequest} {events : List PipelineEvent}
    {place : MailPlace} (put : PutBy partitions traced events place) :
    ∃ headers, ((initial partitions).after events).world.headersAt? place = some headers ∧
      traced.context.GoesOnIn headers := by
  induction put with
  | request own fills =>
      obtain ⟨actor, asker, headers, _, same, acts, found, sent⟩ := fills.exists_sent
      rw [own] at same
      cases same
      exact ⟨headers, found, acts.goesOn_of_maySend sent⟩
  | @relayed events activity batch relayed entry rest place present put fills
      inductionHypothesis =>
      obtain ⟨actor, asker, headers, same, _, acts, found, sent⟩ := fills.exists_sent
      rw [present] at same
      cases same
      cases asker with
      | some _ => exact acts.elim
      | none =>
          cases sent
          -- the entry is still in the outbox as the relay has read it
          have lies := acts entry List.mem_cons_self
          obtain ⟨held, same, goesOn⟩ := inductionHypothesis
          rw [lies] at same
          cases same
          exact ⟨_, found, goesOn⟩
  | earlier event put inductionHypothesis =>
      obtain ⟨headers, found, goesOn⟩ := inductionHypothesis
      exact ⟨headers, (posts_concat partitions _ event).keeps found, goesOn⟩

theorem PutBy.exists_start {partitions : Int} {traced : TracedRequest}
    {events : List PipelineEvent} {place : MailPlace}
    (put : PutBy partitions traced events place) :
    ∃ settings, .start (.request settings traced) ∈ events := by
  induction put with
  | request own fills =>
      obtain ⟨settings, started⟩ := exists_start_of_asker (List.mem_of_getElem? own)
      exact ⟨settings, List.mem_append_left _ started⟩
  | relayed _ _ _ inductionHypothesis | earlier _ _ inductionHypothesis =>
      obtain ⟨settings, started⟩ := inductionHypothesis
      exact ⟨settings, List.mem_append_left _ started⟩

/-- Whatever lies somewhere, a request has put it there. -/
theorem exists_putBy (partitions : Int) (events : List PipelineEvent) {place : MailPlace}
    {headers : Headers}
    (held : ((initial partitions).after events).world.headersAt? place = some headers) :
    ∃ traced, PutBy partitions traced events place := by
  induction events using List.reverseRecOn generalizing place headers with
  | nil => cases place <;> cases held
  | append_singleton events event inductionHypothesis =>
      rcases (posts_concat partitions events event).held_or_sent held with
        earlier | ⟨empty, activity, actor, asker, rfl, present, own, sent⟩
      · obtain ⟨traced, put⟩ := inductionHypothesis earlier
        exact ⟨traced, .earlier event put⟩
      · have fills : Fills partitions events activity place := ⟨empty, by rw [held]; nofun⟩
        have acts := (attributed_after partitions events).actsFor activity actor asker present own
        rcases sent.cases_of_actsFor acts with
          ⟨traced, rfl⟩ | ⟨batch, entry, rest, relayed, rfl, lies⟩
        · exact ⟨traced, .request own fills⟩
        · obtain ⟨traced, put⟩ := inductionHypothesis lies
          exact ⟨traced, .relayed present put fills⟩

/--
Traces get through.  In a header list, a context that is written is the one that is read; all
other headers stay as they are, one header of the name is left, and of two contexts that are
written the later one counts.  So in every run of a deployment, whatever a request puts into the
outbox or onto the bus goes on with the trace and the flags of the request, and this is what
every consumer finds that is handed such a message, now or again; and it is handed no other.
-/
theorem traces_reach_consumers :
    (∀ (context other : TraceContext) (headers : Headers),
      TraceContext.extract (context.inject headers) = some context ∧
      (context.inject headers).others "traceparent" = headers.others "traceparent" ∧
      (context.inject headers).named "traceparent" = [("traceparent", context.toText)] ∧
      context.inject (other.inject headers) = context.inject headers) ∧
    ∀ (partitions : Int) (events : List PipelineEvent),
      let pipeline := (initial partitions).after events
      (∀ traced place, PutBy partitions traced events place →
        ∃ headers, pipeline.world.headersAt? place = some headers ∧
          traced.context.GoesOnIn headers) ∧
      ∀ message : InboundMessage,
        ((∃ consumer next : Consumer,
            consumer.fetch pipeline.world.broker = (.ok (some message), next)) ∨
          ∃ worker delivery, .member worker ∈ pipeline.activities ∧
            worker.task = .delivering message delivery) →
        (∃ settings traced, .start (.request settings traced) ∈ events ∧
          PutBy partitions traced events message.place) ∧
          ∀ traced, PutBy partitions traced events message.place →
            ∃ next, message.context = some next ∧ next.trace = traced.context.trace ∧
              next.flags = traced.context.flags ∧ 0 < next.span.number := by
  refine ⟨fun context other headers => ⟨context.extract_inject headers,
    context.others_inject headers, context.named_inject headers,
    context.inject_inject headers other⟩, fun partitions events => ⟨fun traced place put =>
      put.goesOn, fun message handed => ?_⟩⟩
  have lies : ((initial partitions).after events).world.headersAt? message.place =
      some message.headers := by
    rcases handed with ⟨consumer, next, fetched⟩ | ⟨worker, delivery, present, task⟩
    · exact World.headersAt?_place_of_fetch fetched
    · obtain ⟨place, found⟩ := List.mem_iff_getElem?.mp present
      obtain ⟨asker, _, acts⟩ := (attributed_after partitions events).exists_asker found
      exact acts.lies_of_delivering task
  obtain ⟨traced, put⟩ := exists_putBy partitions events lies
  obtain ⟨settings, started⟩ := put.exists_start
  refine ⟨⟨settings, traced, started, put⟩, fun other putByOther => ?_⟩
  obtain ⟨headers, held, goesOn⟩ := putByOther.goesOn
  rw [lies] at held
  cases held
  exact goesOn

example :
    (((initial 1).after lostMember).world.headersAt? (.log ⟨"settlements", 0⟩ 0)).bind
      TraceContext.extract = some (rentRequest.context.child rentRequest.span) := by
  decide +kernel

end Pipeline

end Clearing
