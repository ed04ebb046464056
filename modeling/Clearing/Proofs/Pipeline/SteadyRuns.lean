import Clearing.Proofs.Pipeline.Progress
import Clearing.Proofs.Pipeline.Runs
/-!
Runs of a deployment without outages of its databases, in which all requests go
through one intake.  Its accounts are opened before anything else, and order is
kept between the stores whatever is lost on the way.
-/

namespace Clearing

/-- A disturbance that takes no database away and opens no account. -/
def Disturbance.Steady : Disturbance → Prop
  | .openAccount _ | .setLedger _ | .setBook _ => False
  | .setBroker _ | .setFaults _ | .setCache _ | .setClock _ _ _ => True

instance (disturbance : Disturbance) : Decidable disturbance.Steady :=
  match disturbance with
  | .openAccount _ | .setLedger _ | .setBook _ => .isFalse id
  | .setBroker _ | .setFaults _ | .setCache _ | .setClock _ _ _ => .isTrue trivial

def PipelineEvent.Steady (settings : IntakeSettings) : PipelineEvent → Prop
  | .start (.request other _) => other = settings
  | .start (.relay _) | .start (.member _ _) | .step _ | .lose _ => True
  | .disturb disturbance => disturbance.Steady

instance (settings : IntakeSettings) (event : PipelineEvent) :
    Decidable (event.Steady settings) :=
  match event with
  | .start (.request other _) => inferInstanceAs (Decidable (other = settings))
  | .start (.relay _) | .start (.member _ _) | .step _ | .lose _ => .isTrue trivial
  | .disturb disturbance => inferInstanceAs (Decidable disturbance.Steady)

def Activity.Orderly (settings : IntakeSettings) (world : World) : Activity → Prop
  | .intake other call =>
      other = settings ∧ call.AtStage (IntakeStage.Orderly settings.topic)
  | .relay _ call => call.AtStage (RelayStage.Orderly world)
  | .member worker => worker.Orderly world

theorem Activity.Orderly.of_accumulates {settings : IntakeSettings}
    {before after : World} {activity : Activity}
    (orderly : activity.Orderly settings before) (accumulates : before.Accumulates after) :
    activity.Orderly settings after := by
  cases activity with
  | intake other call => exact orderly
  | relay batch call =>
      exact Call.AtStage.imp (fun _ held => held.of_accumulates accumulates) orderly
  | member worker => exact Member.Orderly.of_accumulates orderly accumulates

/-- One step of an activity takes nothing back and keeps order. -/
theorem Activity.orderly_step {settings : IntakeSettings}
    (outbox : settings.dispatch = .outbox) {world : World} {history : List LedgerEvent}
    (consistent : world.Consistent history) (orderly : world.Orderly settings.topic)
    {activity : Activity} (ready : activity.Orderly settings world) :
    let result := activity.step world
    world.Accumulates result.2 ∧ result.2.Orderly settings.topic ∧
      result.1.Orderly settings result.2 := by
  have unchanged : world.Accumulates world := .refl world
  cases activity with
  | intake other call =>
      obtain ⟨rfl, stage⟩ := ready
      cases call with
      | answered answer => exact ⟨unchanged, orderly, rfl, trivial⟩
      | running current =>
          obtain ⟨accumulates, after, next⟩ :=
            Intake.orderly_step outbox consistent.inRange orderly stage
          exact ⟨accumulates, after, rfl, next⟩
  | relay batch call =>
      cases call with
      | answered answer => exact ⟨unchanged, orderly, trivial⟩
      | running stage => exact RelayPass.orderly_step orderly batch ready
  | member worker => exact Member.orderly_step consistent orderly ready

namespace World

theorem orderly_disturb {world : World} {topic : String} (orderly : world.Orderly topic)
    {disturbance : Disturbance} (steady : disturbance.Steady) :
    (world.disturb disturbance).Orderly topic := by
  have accumulates := world.accumulates_disturb disturbance
  cases disturbance with
  | openAccount _ | setLedger _ | setBook _ => cases steady
  | setBroker _ | setFaults _ | setCache _ | setClock _ _ _ =>
      exact orderly.of_accumulates accumulates rfl rfl (fun _ => id) rfl rfl

theorem orderly_openAccount {world : World} {topic : String}
    (orderly : world.Orderly topic) (opening : Opening) :
    (world.disturb (.openAccount opening)).Orderly topic :=
  orderly.of_accumulates (world.accumulates_disturb _) rfl rfl (fun _ => id) rfl rfl

end World

namespace Pipeline

/-- A deployment with empty stores, after its accounts have been opened. -/
def opened (partitions : Int) (openings : List Opening) : Pipeline :=
  (initial partitions).after
    (openings.map fun opening => .disturb (.openAccount opening))

structure Orderly (settings : IntakeSettings) (start : List LedgerEvent)
    (pipeline : Pipeline) : Prop where
  sound : pipeline.Sound
  world : pipeline.world.Orderly settings.topic
  activities : ∀ activity ∈ pipeline.activities,
    activity.Orderly settings pipeline.world
  history : ∃ calls : List LedgerCall, pipeline.history = start ++ calls.map .call

variable {settings : IntakeSettings} {start : List LedgerEvent} {pipeline : Pipeline}

theorem orderly_after_openings (orderly : pipeline.Orderly settings start)
    (same : pipeline.history = start) (openings : List Opening) :
    (pipeline.after (openings.map fun opening => .disturb (.openAccount opening))).Orderly
      settings (start ++ openings.map .openAccount) := by
  induction openings generalizing pipeline start with
  | nil =>
      rw [List.map_nil, List.map_nil, List.append_nil]
      exact orderly
  | cons opening rest inductionHypothesis =>
      have accumulates := pipeline.world.accumulates_disturb (.openAccount opening)
      have history : (pipeline.apply (.disturb (.openAccount opening))).history =
          start ++ [.openAccount opening] := by
        rw [← same]
        rfl
      have next : (pipeline.apply (.disturb (.openAccount opening))).Orderly settings
          (start ++ [.openAccount opening]) := by
        refine ⟨orderly.sound.apply _, World.orderly_openAccount orderly.world opening,
          fun activity member => ?_, [], ?_⟩
        · exact (orderly.activities activity member).of_accumulates accumulates
        · rw [history, List.map_nil, List.append_nil]
      have run := inductionHypothesis next history
      rw [List.append_assoc, List.singleton_append] at run
      exact run

theorem orderly_opened (settings : IntakeSettings) (partitions : Int)
    (openings : List Opening) :
    (opened partitions openings).Orderly settings (openings.map .openAccount) := by
  have empty : (initial partitions).Orderly settings [] := by
    refine ⟨sound_initial partitions, World.orderly_ofPartitions _ partitions, ?_, [], rfl⟩
    intro activity member
    cases member
  exact orderly_after_openings empty rfl openings

theorem exists_calls_ledgerEvents (activity : Activity) (world : World) :
    ∃ calls : List LedgerCall, activity.ledgerEvents world = calls.map .call := by
  cases activity with
  | intake other call => exact ⟨[], rfl⟩
  | relay batch call => exact ⟨[], rfl⟩
  | member worker =>
      change ∃ calls : List LedgerCall, worker.task.ledgerEvents world = calls.map .call
      unfold MemberTask.ledgerEvents
      split
      · unfold DeliveryStage.ledgerEvents
        split
        · exact ⟨[], rfl⟩
        · exact ⟨_, (List.map_map).symm⟩
      · exact ⟨[], rfl⟩
      · exact ⟨[], rfl⟩

theorem Orderly.apply (outbox : settings.dispatch = .outbox)
    (orderly : pipeline.Orderly settings start) {event : PipelineEvent}
    (steady : event.Steady settings) :
    (pipeline.apply event).Orderly settings start := by
  have sound := orderly.sound.apply event
  obtain ⟨calls, history⟩ := orderly.history
  cases event with
  | start beginning =>
      refine ⟨sound, orderly.world, fun activity member => ?_, calls, history⟩
      rcases List.mem_append.mp member with earlier | new
      · exact orderly.activities activity earlier
      · rw [List.mem_singleton.mp new]
        cases beginning with
        | request other traced =>
            refine ⟨steady, ?_⟩
            unfold Intake.begin
            split <;> exact trivial
        | relay batch => exact trivial
        | member group topic =>
            refine .idle _ _ ?_
            rintro positions ⟨⟩
  | step place =>
      simp only [Pipeline.apply] at sound ⊢
      cases present : pipeline.activities[place]? with
      | none => exact orderly
      | some activity =>
          rw [present] at sound
          have ready := orderly.activities activity (List.mem_of_getElem? present)
          obtain ⟨accumulates, after, next⟩ :=
            Activity.orderly_step outbox orderly.sound.consistent orderly.world ready
          obtain ⟨more, asked⟩ := exists_calls_ledgerEvents activity pipeline.world
          refine ⟨sound, after, fun other member => ?_, calls ++ more, ?_⟩
          · rcases List.mem_or_eq_of_mem_set member with earlier | rfl
            · exact (orderly.activities other earlier).of_accumulates accumulates
            · exact next
          · dsimp only
            rw [history, asked, List.map_append, List.append_assoc]
  | lose place =>
      exact ⟨sound, orderly.world, fun activity member =>
        orderly.activities activity (List.mem_of_mem_eraseIdx member), calls, history⟩
  | disturb disturbance =>
      have accumulates := pipeline.world.accumulates_disturb disturbance
      refine ⟨sound, World.orderly_disturb orderly.world steady, fun activity member => ?_,
        calls, ?_⟩
      · exact (orderly.activities activity member).of_accumulates accumulates
      · have quiet : disturbance.ledgerEvents = [] := by
          cases disturbance with
          | openAccount _ | setLedger _ | setBook _ => cases steady
          | setBroker _ | setFaults _ | setCache _ | setClock _ _ _ => rfl
        simp only [Pipeline.apply, quiet, List.append_nil]
        exact history

theorem Orderly.after (outbox : settings.dispatch = .outbox)
    (orderly : pipeline.Orderly settings start) {events : List PipelineEvent}
    (steady : ∀ event ∈ events, event.Steady settings) :
    (pipeline.after events).Orderly settings start := by
  induction events generalizing pipeline with
  | nil => exact orderly
  | cons event rest inductionHypothesis =>
      apply inductionHypothesis
      · exact orderly.apply outbox (steady event List.mem_cons_self)
      · exact fun other member => steady other (List.mem_cons_of_mem _ member)

end Pipeline

end Clearing
