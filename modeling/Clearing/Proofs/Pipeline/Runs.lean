import Clearing.Proofs.Pipeline.Activities
/-!
Runs of a deployment, from accepting a request to recording what became of the
payment.  Requests, passes of the relay and members of settlement groups take
their steps in any order, any of them may be lost at any point, and anything
that they depend on may fail and come back.
-/

namespace Clearing

inductive Beginning where
  | request (settings : IntakeSettings) (traced : TracedRequest)
  | relay (batch : Nat)
  | member (group topic : String)
deriving DecidableEq

def Beginning.activity : Beginning → Activity
  | .request settings traced => .intake settings (Intake.begin traced)
  | .relay batch => .relay batch RelayPass.begin
  | .member group topic => .member (.join group topic)

inductive PipelineEvent where
  | start (beginning : Beginning)
  | step (place : Nat)
  /-- The activity at a place is lost with all that it has in hand. -/
  | lose (place : Nat)
  | disturb (disturbance : Disturbance)

structure Pipeline where
  world : World
  activities : List Activity
  /-- What the ledger was asked for so far, and what became of its accounts. -/
  history : List LedgerEvent

namespace Pipeline

def initial (partitions : Int) : Pipeline where
  world := .ofPartitions partitions
  activities := []
  history := []

def apply (pipeline : Pipeline) : PipelineEvent → Pipeline
  | .start beginning =>
      { pipeline with activities := pipeline.activities ++ [beginning.activity] }
  | .step place =>
      match pipeline.activities[place]? with
      | none => pipeline
      | some activity =>
          let (next, world) := activity.step pipeline.world
          { world
            activities := pipeline.activities.set place next
            history :=
              pipeline.history ++ activity.ledgerEvents pipeline.world }
  | .lose place =>
      { pipeline with activities := pipeline.activities.eraseIdx place }
  | .disturb disturbance =>
      { pipeline with
        world := pipeline.world.disturb disturbance
        history := pipeline.history ++ disturbance.ledgerEvents }

def after (pipeline : Pipeline) (events : List PipelineEvent) : Pipeline :=
  events.foldl apply pipeline

theorem after_concat (pipeline : Pipeline) (events : List PipelineEvent)
    (event : PipelineEvent) :
    pipeline.after (events ++ [event]) = (pipeline.after events).apply event := by
  simp only [after, List.foldl_append, List.foldl_cons, List.foldl_nil]

structure Sound (pipeline : Pipeline) : Prop where
  consistent : pipeline.world.Consistent pipeline.history
  activities : ∀ activity ∈ pipeline.activities, activity.Sound pipeline.world

theorem sound_initial (partitions : Int) : (initial partitions).Sound where
  consistent :=
    { inRange := (by decide : Date.YearInRange Timestamp.sample.date.year)
      ledger := rfl
      statuses := fun id record found => by cases found
      outbox := fun entry member => by cases member
      logs := fun name entry member => by cases member
      applied := fun id held => by cases held }
  activities activity member := by cases member

theorem sound_activity (beginning : Beginning) (world : World) :
    beginning.activity.Sound world := by
  cases beginning with
  | request settings traced =>
      change (Intake.begin traced).AtStage (IntakeStage.Sound world)
      rw [Intake.begin]
      split <;> exact trivial
  | relay batch | member group topic => exact trivial

theorem Sound.apply {pipeline : Pipeline} (sound : pipeline.Sound)
    (event : PipelineEvent) : (pipeline.apply event).Sound := by
  cases event with
  | start beginning =>
      refine ⟨sound.consistent, fun activity member => ?_⟩
      rcases List.mem_append.mp member with earlier | new
      · exact sound.activities activity earlier
      · rw [List.mem_singleton.mp new]
        exact sound_activity beginning pipeline.world
  | step place =>
      simp only [Pipeline.apply]
      split
      · exact sound
      · rename_i activity present
        obtain ⟨kept, next⟩ := Activity.step_sound sound.consistent
          (sound.activities activity (List.mem_of_getElem? present))
        refine ⟨kept.consistent, fun other member => ?_⟩
        rcases List.mem_or_eq_of_mem_set member with earlier | rfl
        · exact (sound.activities other earlier).of_grows kept.grows
        · exact next
  | lose place =>
      exact ⟨sound.consistent, fun activity member =>
        sound.activities activity (List.mem_of_mem_eraseIdx member)⟩
  | disturb disturbance =>
      have kept := World.keeps_disturb sound.consistent disturbance
      exact ⟨kept.consistent, fun activity member =>
        (sound.activities activity member).of_grows kept.grows⟩

theorem Sound.after {pipeline : Pipeline} (sound : pipeline.Sound)
    (events : List PipelineEvent) : (pipeline.after events).Sound := by
  induction events generalizing pipeline with
  | nil => exact sound
  | cons event rest inductionHypothesis => exact inductionHypothesis (sound.apply event)

end Pipeline

/-- In the course of a history, a transfer for the payment changed an account. -/
def Ledger.MovesFor (id : String) (history : List LedgerEvent) : Prop :=
  ∃ before order rest,
    history = before ++ .call (.transfer order) :: rest ∧ order.id = id ∧
      ((empty.after before).transfer order).2.accounts ≠
        (empty.after before).accounts

theorem Ledger.decision_of_movesFor {id : String} {history : List LedgerEvent}
    (moves : MovesFor id history) :
    (empty.after history).decisions.get? id = some .applied := by
  obtain ⟨before, order, rest, rfl, rfl, changed⟩ := moves
  rcases (empty.after before).accounts_transfer_eq_or order with
    same | ⟨source, destination, applied⟩
  · exact absurd same changed
  · exact decision_of_answered_applied ⟨before, rest, rfl, applied⟩

/--
However requests, relays, members, losses and failures are interleaved, the
ledger is where its history has brought it, and of every payment: if the book
says that it was completed, the ledger has applied it; if the book says that it
failed, the ledger has rejected it and never moved money for it; and if the
ledger has applied an order of it, the book holds it with the accounts, the
amount and the currency of that order.
-/
theorem Pipeline.book_agrees_with_ledger
    (partitions : Int) (events : List PipelineEvent) :
    let pipeline := (initial partitions).after events
    let record? := pipeline.world.book.records.get?
    let decision? := pipeline.world.ledger.decisions.get?
    pipeline.world.ledger = Ledger.empty.after pipeline.history ∧
    ∀ id,
      (∀ record, record? id = some record →
        record.status = PaymentStatus.completed.name →
        decision? id = some .applied) ∧
      (∀ record, record? id = some record →
        record.status = PaymentStatus.failed.name →
        (∃ code, decision? id = some (.rejected code)) ∧
          ¬ Ledger.MovesFor id pipeline.history) ∧
      (decision? id = some .applied →
        ∃ record order source destination, record? id = some record ∧
          order.id = id ∧
          Ledger.Answered pipeline.history order
            (.ok (.applied source destination)) ∧
          record.Covers order) := by
  intro pipeline record? decision?
  have sound : pipeline.Sound := (sound_initial partitions).after events
  have consistent := sound.consistent
  refine ⟨consistent.ledger, fun id => ⟨?_, ?_, ?_⟩⟩
  · intro record found completed
    exact consistent.justified found completed
  · intro record found failed
    obtain ⟨code, held⟩ := consistent.justified found failed
    refine ⟨⟨code, held⟩, fun moves => ?_⟩
    have applied := Ledger.decision_of_movesFor moves
    rw [← consistent.ledger, held] at applied
    cases applied
  · intro held
    obtain ⟨order, source, destination, rfl, answered, record, found, covers⟩ :=
      consistent.applied id held
    exact ⟨record, order, source, destination, found, rfl, answered, covers⟩

/-- A request for a payment, with numbers for its trace. -/
def rentRequest : TracedRequest where
  request :=
    { id := "rent"
      source := "11111111-1111-1111-1111-111111111111"
      destination := "22222222-2222-2222-2222-222222222222"
      amount := { coefficient := 314150000, scale := 6 }
      currency := "USD"
      idempotencyKey := "may" }
  context :=
    .root
      { number := 71
        positive := by decide
        bounded := by decide }
      { number := 72
        positive := by decide
        bounded := by decide }
  span :=
    { number := 73
      positive := by decide
      bounded := by decide }

/--
A member is lost as soon as it has moved the money, and another one, to whom the
event is delivered again, records what became of the payment.
-/
def lostMember : List PipelineEvent :=
  [.disturb (.openAccount
      { id := rentRequest.request.source
        currency := .dollar
        balance := { coefficient := 6283000000, scale := 7 } }),
    .disturb (.openAccount
      { id := rentRequest.request.destination
        currency := .dollar
        balance := { coefficient := 27182000000, scale := 8 } }),
    .start (.request
      { dispatch := .direct
        topic := "settlements"
        lifetime := 1 }
      rentRequest),
    .step 0, .step 0, .step 0, .step 0,
    .start (.member "ledger" "settlements"), .step 1, .step 1, .lose 1,
    .start (.member "ledger" "settlements"), .step 1, .step 1, .step 1]

example :
    let pipeline := (Pipeline.initial 1).after lostMember
    (pipeline.world.book.records.get? "rent").map PaymentRecord.status =
        some "COMPLETED" ∧
      pipeline.history.length = 4 := by
  decide +kernel

end Clearing
