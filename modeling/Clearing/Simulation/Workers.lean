import Clearing.Bus.Relay
import Clearing.Simulation.Plan
/-!
Background workers and the passing of time.  A worker that has begun to act goes
on until it has to wait, and then the next one acts.  When all of them wait,
time passes until the first of them wakes.
-/

namespace Clearing.Simulation

namespace Worker

/-- What a worker waits for has come. -/
def isWoken (worker : Worker) (clock signals : Nat) : Bool :=
  match worker.state with
  | .sleeping deadline => decide (deadline ≤ clock)
  | .listening seen => decide (seen ≠ signals)
  | .ready | .stuck => false

/-- The time at which a worker wakes, if it sleeps. -/
def deadline? (worker : Worker) : Option Nat :=
  match worker.state with
  | .sleeping deadline => some deadline
  | .ready | .listening _ | .stuck => none

end Worker

namespace Deployment

/-- Make passes; only a full batch is followed by another one at once. -/
def actRelay : (passes : Nat) → Deployment → WorkerState × Deployment
  | 0, deployment => (.ready, deployment)
  | passes + 1, deployment =>
      let deployment := deployment.tick
      let plan := deployment.plan
      let (pass, world) := deployment.world.relayOnce plan.batchSize
      let deployment := { deployment with world := world }
      let relayed :=
        match pass with
        | .answered (.ok relayed) => relayed
        | .answered (.error _) | .running _ => 0
      if 0 < relayed ∧ plan.batchSize ≤ relayed then
        actRelay passes deployment
      else
        (.sleeping (deployment.clock + plan.pollInterval), deployment)

/-- Let a member settle one message, step after step. -/
def stepMember (sink : StatusSink) : (steps : Nat) → World → Member →
    Member.Progress × Member × World
  | 0, world, member => (.moved, member, world)
  | steps + 1, world, member =>
      match member.step sink world with
      | (.moved, member, world) =>
          if member.task = .idle then
            (.moved, member, world)
          else
            stepMember sink steps world member
      | stopped => stopped

/-- Fetch, settle and commit messages until there is none. -/
def actSettlement (number : Nat) :
    (messages : Nat) → Deployment → WorkerState × Deployment
  | 0, deployment => (.ready, deployment)
  | messages + 1, deployment =>
      let deployment := deployment.tick
      let (progress, member, world) :=
        stepMember deployment.plan.sink (Delivery.steps + 2) deployment.world
          (deployment.member number)
      let deployment :=
        { deployment with world := world }.withMember number member
      match progress with
      | .waiting => (.listening world.broker.signals, deployment)
      | .failed _ =>
          (.sleeping (deployment.clock + deployment.plan.errorBackoff),
            deployment)
      | .moved =>
          if member.task = .idle then
            actSettlement number messages deployment
          else
            (.stuck, deployment)

/-- Purge the cache, and do so again after the interval. -/
def actCacheSweeper (interval : Nat) (deployment : Deployment) :
    WorkerState × Deployment :=
  if deployment.world.faults.cacheSilent then
    (.stuck, deployment)
  else
    (.sleeping (deployment.clock + interval),
      { deployment with world := deployment.world.cachePurge.2 })

/-- Evict elapsed windows, and do so again after the interval. -/
def actLimitSweeper (interval : Nat) (deployment : Deployment) :
    WorkerState × Deployment :=
  let gateway := deployment.gateway
  let limiter := (gateway.limiter.evict deployment.world.now).2
  (.sleeping (deployment.clock + interval),
    { deployment with gateway := { gateway with limiter := limiter } })

/-- Do what a job asks for until it is time to wait. -/
def act (deployment : Deployment) : Job → WorkerState × Deployment
  | .relay =>
      deployment.actRelay (deployment.world.book.outbox.unpublished.length + 1)
  | .settlement member =>
      let messages := deployment.world.broker.logs.values.foldl
        (fun total entries => total + entries.length) 0
      actSettlement member (messages + 1) deployment
  | .cacheSweeper interval => actCacheSweeper interval deployment.tick
  | .limitSweeper interval => actLimitSweeper interval deployment.tick

/-- Put those whose wait is over behind all others, ready to act. -/
def wake (deployment : Deployment) : Deployment :=
  let (woken, others) := deployment.workers.partition fun worker =>
    worker.isWoken deployment.clock deployment.world.broker.signals
  { deployment with
    workers :=
      others ++ woken.map fun worker => { worker with state := .ready } }

/-- Let the workers that are ready act in turn until all of them wait. -/
def drain : (turns : Nat) → Deployment → Deployment
  | 0, deployment => deployment
  | turns + 1, deployment =>
      match deployment.workers.find? (·.state = .ready) with
      | none => deployment
      | some worker =>
          let others := deployment.workers.erase worker
          let (state, deployment) :=
            { deployment with workers := others }.act worker.job
          drain turns
            { deployment with
              workers :=
                deployment.workers ++ [{ worker with state := state }] }.wake

/--
Let all workers act that can.  Each acts at most once more than there are
relays, since nobody else wakes anyone.
-/
def runWorkers (deployment : Deployment) : Deployment :=
  let workers := deployment.workers.length
  drain ((workers + 1) * (workers + 1)) deployment.wake

/-- The first time after now at which a worker wakes. -/
def nextDeadline? (deployment : Deployment) : Option Nat :=
  (deployment.workers.filterMap Worker.deadline?).min?

/-- Let time pass up to a given time, waking workers in order. -/
def elapseTo (target : Nat) : (fuel : Nat) → Deployment → Deployment
  | 0, deployment => { deployment with clock := target }
  | fuel + 1, deployment =>
      match deployment.nextDeadline? with
      | some deadline =>
          if deadline ≤ target then
            let reached :=
              { deployment with clock := max deployment.clock deadline }
            elapseTo target fuel reached.runWorkers
          else
            { deployment with clock := target }
      | none => { deployment with clock := target }

/-- Let a number of milliseconds pass once all workers wait. -/
def elapse (deployment : Deployment) (milliseconds : Nat) : Deployment :=
  elapseTo (deployment.clock + milliseconds)
    ((milliseconds + 1) * (deployment.workers.length + 1))
    deployment.runWorkers

end Deployment

end Clearing.Simulation
