import Clearing.Proofs.Settlement.Workers
import Clearing.Proofs.World.Disturbances
/-!
Settlement groups in operation.  Workers of any groups take their steps side by side
while messages are published, workers join and are lost, and stores and connections
are disturbed, in any order.  Every message is processed at least once.
-/

namespace Clearing

inductive CrewEvent where
  | publish (message : OutboundMessage)
  | join (sink : StatusSink) (group topic : String)
  /-- The worker at a place takes a step. -/
  | step (place : Nat)
  /-- The worker at a place is cancelled or crashes. -/
  | lose (place : Nat)
  | disturb (disturbance : Disturbance)

structure Crew where
  world : World
  workers : List Worker
  /-- What has been completely processed, in the order of its completion. -/
  processed : List Completion

namespace Crew

def opened (partitions : Int) : Crew where
  world := .ofPartitions partitions
  workers := []
  processed := []

def apply (crew : Crew) : CrewEvent → Crew
  | .publish message => { crew with world := (crew.world.publish message).2 }
  | .join sink group topic =>
      { crew with workers := crew.workers ++ [.join sink group topic] }
  | .step place =>
      match crew.workers[place]? with
      | none => crew
      | some worker =>
          if worker.lost then
            crew
          else
            { world := (worker.step crew.world).2
              workers := crew.workers.set place (worker.step crew.world).1
              processed := crew.processed ++ worker.completed crew.world }
  | .lose place =>
      match crew.workers[place]? with
      | none => crew
      | some worker =>
          { crew with workers := crew.workers.set place { worker with lost := true } }
  | .disturb disturbance => { crew with world := crew.world.disturb disturbance }

def after (crew : Crew) (events : List CrewEvent) : Crew :=
  events.foldl apply crew

def turnAt (crew : Crew) (place : Nat) : Nat :=
  (crew.workers[place]?.map fun worker => worker.member.consumer.turn).getD 0

def looksAt (crew : Crew) (place : Nat) : Nat :=
  (crew.workers[place]?.map Worker.looks).getD 0

structure Sound (crew : Crew) : Prop where
  workers : ∀ worker ∈ crew.workers, worker.Sound crew.world.broker crew.processed
  commits : CommitsCovered crew.world.broker crew.processed

/-- What was published and what was processed stays so. -/
structure Proceeds (before after : Crew) : Prop where
  broker : before.world.broker.Continues after.world.broker
  processed : before.processed ⊆ after.processed

theorem sound_opened (partitions : Int) : (opened partitions).Sound where
  workers worker member := by cases member
  commits := by
    constructor
    · intro name offset held
      cases held
    · intro name offset held
      cases held

theorem Proceeds.refl (crew : Crew) : crew.Proceeds crew where
  broker := .refl crew.world.broker
  processed := List.Subset.refl _

theorem Proceeds.trans {first second third : Crew} (early : first.Proceeds second)
    (late : second.Proceeds third) : first.Proceeds third where
  broker := early.broker.trans late.broker
  processed := List.Subset.trans early.processed late.processed

variable {crew next : Crew}

theorem Sound.of_proceeds (sound : crew.Sound) (proceeds : crew.Proceeds next)
    (commits : CommitsCovered next.world.broker next.processed)
    (workers : ∀ worker ∈ next.workers, worker ∈ crew.workers ∨
      worker.Sound next.world.broker next.processed) : next.Sound where
  commits := commits
  workers worker member := by
    rcases workers worker member with earlier | new
    · exact (sound.workers worker earlier).mono proceeds.broker proceeds.processed
    · exact new

theorem Sound.of_world (sound : crew.Sound) {world : World}
    (continues : crew.world.broker.Continues world.broker)
    (commits : world.broker.commits = crew.world.broker.commits) :
    ({ crew with world := world } : Crew).Sound ∧
      crew.Proceeds { crew with world := world } := by
  have proceeds : crew.Proceeds { crew with world := world } :=
    ⟨continues, List.Subset.refl _⟩
  exact ⟨sound.of_proceeds proceeds
    (sound.commits.mono continues commits (List.Subset.refl _)) fun _ => .inl, proceeds⟩

theorem broker_disturb (world : World) (disturbance : Disturbance) :
    world.broker.Continues (world.disturb disturbance).broker ∧
      (world.disturb disturbance).broker.commits = world.broker.commits := by
  cases disturbance <;> exact ⟨.of_eq rfl rfl, rfl⟩

theorem broker_publish (world : World) (message : OutboundMessage) :
    world.broker.Continues (world.publish message).2.broker ∧
      (world.publish message).2.broker.commits = world.broker.commits := by
  refine ⟨world.broker.continues_publish message, ?_⟩
  unfold World.publish Broker.publish
  cases world.broker.outage <;> rfl

theorem Sound.apply (sound : crew.Sound) (event : CrewEvent) :
    (crew.apply event).Sound ∧ crew.Proceeds (crew.apply event) := by
  cases event with
  | publish message =>
      obtain ⟨continues, commits⟩ := broker_publish crew.world message
      exact sound.of_world continues commits
  | disturb disturbance =>
      obtain ⟨continues, commits⟩ := broker_disturb crew.world disturbance
      exact sound.of_world continues commits
  | join sink group topic =>
      have proceeds : crew.Proceeds (crew.apply (.join sink group topic)) :=
        ⟨.refl _, List.Subset.refl _⟩
      refine ⟨sound.of_proceeds proceeds sound.commits fun worker member => ?_, proceeds⟩
      rcases List.mem_append.mp member with earlier | new
      · exact .inl earlier
      · rw [List.mem_singleton.mp new]
        exact .inr (Worker.sound_join _ _ sink group topic)
  | step place =>
      simp only [Crew.apply]
      cases present : crew.workers[place]? with
      | none => exact ⟨sound, .refl crew⟩
      | some worker =>
          dsimp only
          split
          · exact ⟨sound, .refl crew⟩
          · have stepped :=
              (sound.workers worker (List.mem_of_getElem? present)).step sound.commits
            refine ⟨sound.of_proceeds ⟨stepped.continues, List.subset_append_left _ _⟩
              stepped.commits fun other member => ?_,
              stepped.continues, List.subset_append_left _ _⟩
            rcases List.mem_or_eq_of_mem_set member with earlier | rfl
            · exact .inl earlier
            · exact .inr stepped.worker
  | lose place =>
      simp only [Crew.apply]
      cases present : crew.workers[place]? with
      | none => exact ⟨sound, .refl crew⟩
      | some worker =>
          have own := sound.workers worker (List.mem_of_getElem? present)
          have lost : ({ worker with lost := true } : Worker).Sound crew.world.broker
              crew.processed := ⟨own.subscription, own.begun, own.held, own.handled⟩
          refine ⟨sound.of_proceeds ⟨.refl _, List.Subset.refl _⟩ sound.commits
            fun other member => ?_, .refl _, List.Subset.refl _⟩
          rcases List.mem_or_eq_of_mem_set member with earlier | rfl
          · exact .inl earlier
          · exact .inr lost

theorem Sound.after (sound : crew.Sound) (events : List CrewEvent) :
    (crew.after events).Sound ∧ crew.Proceeds (crew.after events) := by
  induction events generalizing crew with
  | nil => exact ⟨sound, .refl crew⟩
  | cons event rest inductionHypothesis =>
      obtain ⟨next, proceeds⟩ := sound.apply event
      obtain ⟨last, goesOn⟩ := inductionHypothesis next
      exact ⟨last, proceeds.trans goesOn⟩

/--
The worker at a place has gone on from a turn and a number of looks, past the messages
that stood in its topic before.
-/
structure Follows (before : Broker) (place partition offset turn looks : Nat)
    (crew : Crew) : Prop where
  absent : crew.workers.length ≤ place → turn = 0 ∧ looks = 0
  advances : ∀ worker message, crew.workers[place]? = some worker →
    (before.messages ⟨worker.member.consumer.topic, partition⟩)[offset]? =
      some message →
    worker.subscription.Advances before.partitions partition offset turn looks

variable {before : Broker} {place partition offset turn looks : Nat}

theorem Sound.follows (sound : crew.Sound) (place partition offset : Nat) :
    crew.Follows crew.world.broker place partition offset (crew.turnAt place)
      (crew.looksAt place) where
  absent beyond := by
    rw [turnAt, looksAt, List.getElem?_eq_none beyond]
    exact ⟨rfl, rfl⟩
  advances worker message present _ := by
    rw [turnAt, looksAt, present]
    exact (sound.workers worker (List.mem_of_getElem? present)).subscription.advances
      partition offset

theorem Follows.set (follows : crew.Follows before place partition offset turn looks)
    {position : Nat} {worker other : Worker} {world : World} {processed : List Completion}
    (present : crew.workers[position]? = some worker)
    (topic : other.member.consumer.topic = worker.member.consumer.topic)
    (goesOn : ∀ message,
      (before.messages ⟨worker.member.consumer.topic, partition⟩)[offset]? =
        some message →
      worker.subscription.Advances before.partitions partition offset turn looks →
      other.subscription.Advances before.partitions partition offset turn looks) :
    Follows before place partition offset turn looks
      { world := world
        workers := crew.workers.set position other
        processed := processed } where
  absent beyond := follows.absent (by simpa using beyond)
  advances found message held stands := by
    rw [List.getElem?_set] at held
    split at held
    · rename_i same
      subst same
      split at held
      · cases held
        rw [topic] at stands
        exact goesOn message stands (follows.advances worker message present stands)
      · cases held
    · exact follows.advances found message held stands

theorem Follows.apply (follows : crew.Follows before place partition offset turn looks)
    (sound : crew.Sound) (continues : before.Continues crew.world.broker)
    (event : CrewEvent) :
    (crew.apply event).Follows before place partition offset turn looks := by
  cases event with
  | publish message => exact ⟨follows.absent, follows.advances⟩
  | disturb disturbance => exact ⟨follows.absent, follows.advances⟩
  | join sink group topic =>
      constructor
      · intro beyond
        refine follows.absent (Nat.le_trans ?_ beyond)
        simp [Crew.apply]
      · intro worker message held stands
        simp only [Crew.apply, List.getElem?_append] at held
        split at held
        · exact follows.advances worker message held stands
        · rename_i beyond
          obtain ⟨rfl, rfl⟩ := follows.absent (Nat.not_lt.mp beyond)
          have new := List.mem_singleton.mp (List.mem_of_getElem? held)
          rw [new]
          exact (Subscription.sound_join before group topic).advances partition offset
  | step position =>
      simp only [Crew.apply]
      cases present : crew.workers[position]? with
      | none => exact follows
      | some worker =>
          dsimp only
          split
          · exact follows
          · have own := (sound.workers worker (List.mem_of_getElem? present)).subscription
            have topic := (worker.subscription.place_fetch crew.world.broker).2
            rcases worker.subscription_step crew.world with same | looked
            · refine follows.set present ?_ fun message _ advances => ?_
              · exact congrArg (fun seen => seen.consumer.topic) same
              · rw [same]
                exact advances
            · refine follows.set present ?_ fun message stands advances => ?_
              · exact (congrArg (fun seen => seen.consumer.topic) looked).trans topic
              · rw [looked]
                rw [← continues.partitions] at advances ⊢
                exact advances.fetch own sound.commits.nonneg
                  (continues.getElem?_messages stands)
  | lose position =>
      simp only [Crew.apply]
      cases present : crew.workers[position]? with
      | none => exact follows
      | some worker => exact follows.set present rfl fun _ _ advances => advances

theorem Follows.after (follows : crew.Follows before place partition offset turn looks)
    (sound : crew.Sound) (continues : before.Continues crew.world.broker)
    (events : List CrewEvent) :
    (crew.after events).Follows before place partition offset turn looks := by
  induction events generalizing crew with
  | nil => exact follows
  | cons event rest inductionHypothesis =>
      obtain ⟨next, proceeds⟩ := sound.apply event
      exact inductionHypothesis (follows.apply sound continues event) next
        (continues.trans proceeds.broker)

/--
Every message is processed at least once, however workers join, crash and get in each
other's way.  Below the committed offset of a group stands nothing but what some
worker of the group has completely processed; and a worker that keeps looking is
handed every message from its start on, after a round of looks for each offset up to
that of the message, while what stands before its start has been processed.
-/
theorem at_least_once (partitions : Int) (events more : List CrewEvent) :
    let count := max 1 partitions.toNat
    let crew := (opened partitions).after events
    let later := (opened partitions).after (events ++ more)
    (∀ group topic partition next,
      crew.world.broker.committed? group topic partition = some next →
      ∀ offset : Nat, offset < next → ∃ message,
        (crew.world.broker.messages ⟨topic, partition⟩)[offset]? = some message ∧
          ∃ completion ∈ crew.processed,
            completion.group = group ∧ completion.message = message) ∧
    ∀ place worker, later.workers[place]? = some worker →
      ∀ partition < count, ∀ offset message,
        (crew.world.broker.messages
          ⟨worker.member.consumer.topic, partition⟩)[offset]? = some message →
        crew.looksAt place + count * (offset + 1) ≤ worker.looks →
        ∃ start : Nat → Int, worker.start = some start ∧
          (start partition ≤ offset → message ∈ worker.received) ∧
          (offset < start partition → ∃ completion ∈ later.processed,
            completion.group = worker.member.consumer.group ∧
              completion.message = message) := by
  intro count crew later
  obtain ⟨sound, begun⟩ := (sound_opened partitions).after events
  have same : later = crew.after more := List.foldl_append
  obtain ⟨laterSound, proceeds⟩ := sound.after more
  rw [← same] at laterSound proceeds
  refine ⟨fun group topic partition next committed => ?_,
    fun place worker present partition inRange offset message stands enough => ?_⟩
  · exact sound.commits.covered _ next committed
  · have own := laterSound.workers worker (List.mem_of_getElem? present)
    have follows := (sound.follows place partition offset).after sound (.refl _) more
    rw [← same] at follows
    have advances := follows.advances worker message present stands
    have counted : later.world.broker.partitions = count :=
      proceeds.broker.partitions.trans begun.broker.partitions
    rw [← proceeds.broker.partitions] at advances
    rw [← counted] at inRange enough
    have standsLater := proceeds.broker.getElem?_messages stands
    obtain ⟨start, started, handed⟩ :=
      advances.handed own.subscription inRange standsLater enough
    refine ⟨start, started, handed, fun earlier => ?_⟩
    obtain ⟨found, there, done⟩ := own.begun start started partition offset earlier
    rw [standsLater] at there
    cases there
    exact done

end Crew

end Clearing
