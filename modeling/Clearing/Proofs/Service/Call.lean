import Clearing.Service.Call
/-!
Calls taken step by step.  An answered call stays as it is, and so does a call
at a stage at which nothing answers.
-/

namespace Clearing.Call

variable {Stage Answer : Type} {step : World → Stage → Call Stage Answer × World}

/-- The stage of a call has a property, unless the call is answered. -/
def AtStage (Holds : Stage → Prop) : Call Stage Answer → Prop
  | .running stage => Holds stage
  | .answered _ => True

theorem AtStage.imp {Before After : Stage → Prop}
    (implies : ∀ stage, Before stage → After stage) {call : Call Stage Answer}
    (holds : call.AtStage Before) : call.AtStage After := by
  cases call with
  | running stage => exact implies stage holds
  | answered answer => exact trivial

theorem run_answered (steps : Nat) (world : World) (answer : Answer) :
    run step steps world (.answered answer) = (.answered answer, world) := by
  induction steps with
  | zero => rfl
  | succ steps inductionHypothesis => exact inductionHypothesis

theorem run_succ_running (steps : Nat) (world : World) (stage : Stage) :
    run step (steps + 1) world (.running stage) =
      run step steps (step world stage).2 (step world stage).1 :=
  rfl

theorem run_of_silent {world : World} {stage : Stage}
    (silent : step world stage = (.running stage, world)) (steps : Nat) :
    run step steps world (.running stage) = (.running stage, world) := by
  induction steps with
  | zero => rfl
  | succ steps inductionHypothesis =>
      rw [run_succ_running, silent]
      exact inductionHypothesis

theorem run_preserves {Holds : World → Prop}
    (preserves : ∀ world stage, Holds world → Holds (step world stage).2)
    (steps : Nat) {world : World} (holds : Holds world)
    (call : Call Stage Answer) :
    Holds (run step steps world call).2 := by
  induction steps generalizing world call with
  | zero => exact holds
  | succ steps inductionHypothesis =>
      cases call with
      | answered answer => exact inductionHypothesis holds (.answered answer)
      | running stage => exact inductionHypothesis (preserves world stage holds) _

theorem run_keeps {Value : Type} (read : World → Value)
    (keeps : ∀ world stage, read (step world stage).2 = read world) {steps : Nat}
    {world after : World} {call result : Call Stage Answer}
    (ran : run step steps world call = (result, after)) : read after = read world := by
  have preserves (now : World) (stage : Stage) (same : read now = read world) :
      read (step now stage).2 = read world :=
    (keeps now stage).trans same
  have kept := run_preserves preserves steps rfl call
  rw [ran] at kept
  exact kept

theorem answer_of_run (Holds : Answer → Prop)
    (answers : ∀ world stage answer, (step world stage).1 = .answered answer → Holds answer)
    (steps : Nat) {world : World} {call : Call Stage Answer}
    (given : ∀ answer, call = .answered answer → Holds answer) (answer : Answer)
    (ran : (run step steps world call).1 = .answered answer) : Holds answer := by
  induction steps generalizing world call with
  | zero => exact given answer ran
  | succ steps inductionHypothesis =>
      cases call with
      | answered answer => exact inductionHypothesis given ran
      | running stage => exact inductionHypothesis (answers world stage) ran

@[simp]
def left (cost : Stage → Nat) : Call Stage Answer → Nat
  | .running stage => cost stage
  | .answered _ => 0

/--
A call is answered if every step brings it nearer to its answer, and what every step preserves
of the call and the world holds at the end.
-/
theorem exists_answer_of_run (Holds : World → Call Stage Answer → Prop) (cost : Stage → Nat)
    (advances : ∀ world stage, Holds world (.running stage) →
      Holds (step world stage).2 (step world stage).1 ∧
        (step world stage).1.left cost < cost stage)
    (steps : Nat) {world : World} {call : Call Stage Answer} (holds : Holds world call)
    (enough : call.left cost ≤ steps) :
    ∃ answer after, run step steps world call = (.answered answer, after) ∧
      Holds after (.answered answer) := by
  induction steps generalizing world call with
  | zero =>
      cases call with
      | answered answer => exact ⟨answer, world, rfl, holds⟩
      | running stage =>
          have nearer := (advances world stage holds).2
          have none : cost stage ≤ 0 := enough
          omega
  | succ steps inductionHypothesis =>
      cases call with
      | answered answer => exact ⟨answer, world, run_answered _ world answer, holds⟩
      | running stage =>
          obtain ⟨next, nearer⟩ := advances world stage holds
          have most : cost stage ≤ steps + 1 := enough
          exact inductionHypothesis next (by omega)

end Clearing.Call
