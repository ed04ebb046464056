import Clearing.Proofs.Pipeline.Publishing
import Clearing.Proofs.Pipeline.Settling
/-!
Activities of a deployment: requests that are handled, passes of the relay and
members that settle.  What an activity has in hand is sound when it was
prepared by the intake, announces a payment of the book, or says what the
ledger has decided.  One step of a sound activity leaves it sound.
-/

namespace Clearing

inductive Activity where
  | intake (settings : IntakeSettings) (call : Intake)
  | relay (batch : Nat) (call : RelayPass)
  | member (worker : Member)
deriving DecidableEq

namespace Activity

def step (world : World) : Activity → Activity × World
  | .intake settings call =>
      let (call, world) := Call.advance (Intake.step settings) world call
      (.intake settings call, world)
  | .relay batch call =>
      let (call, world) := Call.advance (RelayPass.step batch) world call
      (.relay batch call, world)
  | .member worker =>
      let (_, worker, world) := worker.step .book world
      (.member worker, world)

def ledgerEvents (world : World) : Activity → List LedgerEvent
  | .member worker => worker.task.ledgerEvents world
  | .intake _ _ | .relay _ _ => []

def Sound (world : World) : Activity → Prop
  | .intake _ call => call.AtStage (IntakeStage.Sound world)
  | .relay _ call => call.AtStage (RelayStage.Sound world)
  | .member worker => worker.task.Sound world

theorem Sound.of_grows {before after : World} {activity : Activity}
    (sound : activity.Sound before) (grows : before.Grows after) :
    activity.Sound after := by
  cases activity with
  | intake settings call =>
      exact Call.AtStage.imp (fun _ held => held.of_grows grows) sound
  | relay batch call =>
      exact Call.AtStage.imp (fun _ held => held.of_grows grows) sound
  | member worker => exact MemberTask.Sound.of_grows sound grows

theorem advance_sound {Stage Answer : Type} {Holds : World → Stage → Prop}
    {step : World → Stage → Call Stage Answer × World} {world : World}
    (stepSound : ∀ stage, Holds world stage →
      world.Extends (step world stage).2 ∧
        (step world stage).1.AtStage (Holds (step world stage).2))
    {call : Call Stage Answer} (sound : call.AtStage (Holds world)) :
    world.Extends (call.advance step world).2 ∧
      (call.advance step world).1.AtStage
        (Holds (call.advance step world).2) := by
  cases call with
  | running stage => exact stepSound stage sound
  | answered answer => exact ⟨.refl world, trivial⟩

/--
One step of a sound activity takes nothing back, keeps the stores consistent
and leaves the activity sound.
-/
theorem step_sound {world : World} {history : List LedgerEvent}
    (consistent : world.Consistent history) {activity : Activity}
    (sound : activity.Sound world) :
    world.Keeps (activity.step world).2 history (activity.ledgerEvents world) ∧
      (activity.step world).1.Sound (activity.step world).2 := by
  cases activity with
  | intake settings call =>
      obtain ⟨extended, next⟩ := advance_sound
        (fun _ => Intake.step_sound consistent.inRange settings) sound
      exact ⟨extended.keeps consistent, next⟩
  | relay batch call =>
      obtain ⟨extended, next⟩ := advance_sound
        (fun _ => RelayPass.step_sound consistent.outbox batch) sound
      exact ⟨extended.keeps consistent, next⟩
  | member worker => exact Member.step_sound consistent sound

end Activity

end Clearing
