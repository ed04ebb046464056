import Clearing.Balance.Cache
import Clearing.Config.Environment
import Clearing.Config.Settings
import Clearing.Gateway.Service
import Clearing.Settlement.Member
/-!
Simulated deployments.  A plan says what a deployment is made of; the deployment
is that with everything that has happened to it.
-/

namespace Clearing.Simulation

structure Plan where
  partitions : Int
  topic : String
  group : String
  dispatch : Dispatch
  /-- How long receipts are remembered, in nanoseconds. -/
  receiptLifetime : Nat
  /-- How long balances are cached, in nanoseconds. -/
  balanceLifetime : Nat
  /-- The most entries of one pass of the relay. -/
  batchSize : Nat
  /-- Milliseconds between passes of the relay. -/
  pollInterval : Nat
  /-- Milliseconds of pause after a fetch that failed. -/
  errorBackoff : Nat
  sink : StatusSink
  playsPayment : Bool
  playsLedger : Bool
  limiter : Limiter
  /-- The accounts that are open from the start. -/
  accounts : List (String × Currency × Decimal)

/-- A small deployment with every service and no account. -/
def Plan.default : Plan where
  partitions := 2
  topic := "payment.initiated"
  group := Environment.defaultGroup
  dispatch := .direct
  receiptLifetime := Idempotency.defaultLifetime
  balanceLifetime := BalanceCache.defaultLifetime
  batchSize := OutboxSettings.default.batchSize
  pollInterval := OutboxSettings.default.pollInterval
  errorBackoff := SettlementSettings.default.errorBackoff
  sink := .book
  playsPayment := true
  playsLedger := true
  limiter := .perMinute Limiter.defaultLimit
  accounts := []

def Plan.intake (plan : Plan) : IntakeSettings where
  dispatch := plan.dispatch
  topic := plan.topic
  lifetime := plan.receiptLifetime

/--
What is known by the name of a member: the member who joined last under it, and
the message that was last handed out to it.
-/
structure Seat where
  /-- The number of the member, in the order in which members joined. -/
  member : Nat
  held : Option InboundMessage
  /-- Set while a fetch waits: the signals that had been seen when it began. -/
  waiting : Option Nat

/-- The seat of a member who has not been handed anything. -/
def Seat.ofMember (member : Nat) : Seat where
  member := member
  held := none
  waiting := none

inductive WorkerName where
  | relay
  | settlement (member : String)
  | cacheSweeper
  | limitSweeper
deriving DecidableEq

/-- What a worker does; sweepers do it at intervals of milliseconds. -/
inductive Job where
  | relay
  | settlement (member : Nat)
  | cacheSweeper (interval : Nat)
  | limitSweeper (interval : Nat)
deriving DecidableEq

/-- What a worker is waiting for. -/
inductive WorkerState where
  | ready
  /-- The time at which the worker goes on, in milliseconds. -/
  | sleeping (deadline : Nat)
  /-- A signal beyond those that have been seen. -/
  | listening (seen : Nat)
  /-- An answer that never comes. -/
  | stuck
deriving DecidableEq

structure Worker where
  /-- A worker whose name another has taken cannot be stopped any more. -/
  name : Option WorkerName
  job : Job
  state : WorkerState
deriving DecidableEq

structure Deployment where
  plan : Plan
  world : World
  gateway : Gateway
  /-- Everyone who ever joined, in that order. -/
  members : List Member
  seats : Table String Seat
  /--
  Those who wait stand in the order in which they began to wait, and those who
  are ready in the order in which they will act.
  -/
  workers : List Worker
  /-- The time that workers sleep by, in milliseconds. -/
  clock : Nat
  /-- The number of spans that have been made. -/
  spans : Nat
  /-- The accounts that were ever opened. -/
  accounts : List String
  /-- The payments that were named. -/
  payments : List String

namespace Deployment

/-- The member that a deployment has from the start. -/
def mainMember : String := "main"

def openAccount (deployment : Deployment) (id : String) (currency : Currency)
    (balance : Decimal) : Deployment :=
  let world := deployment.world
  { deployment with
    world :=
      { world with ledger := world.ledger.openAccount id currency balance }
    accounts := deployment.accounts ++ [id] }

/-- Let a new member take the seat of a name. -/
def join (deployment : Deployment) (name group topic : String) : Deployment :=
  { deployment with
    members := deployment.members ++ [.join group topic]
    seats :=
      deployment.seats.insert name (.ofMember deployment.members.length) }

/-- Let someone join under a name that nobody has. -/
def ensureJoined (deployment : Deployment) (name : String) : Deployment :=
  match deployment.seats.get? name with
  | some _ => deployment
  | none => deployment.join name deployment.plan.group deployment.plan.topic

/-- The seat of a name; the first member answers to names that nobody has. -/
def seat (deployment : Deployment) (name : String) : Seat :=
  (deployment.seats.get? name).getD (.ofMember 0)

def withSeat (deployment : Deployment) (name : String) (seat : Seat) :
    Deployment :=
  { deployment with seats := deployment.seats.insert name seat }

def member (deployment : Deployment) (number : Nat) : Member :=
  deployment.members[number]?.getD
    (.join deployment.plan.group deployment.plan.topic)

/-- The member who joined last under a name. -/
def memberOf (deployment : Deployment) (name : String) : Member :=
  deployment.member (deployment.seat name).member

def withMember (deployment : Deployment) (number : Nat) (member : Member) :
    Deployment :=
  { deployment with members := deployment.members.set number member }

def withMemberOf (deployment : Deployment) (name : String) (member : Member) :
    Deployment :=
  deployment.withMember (deployment.seat name).member member

def name (deployment : Deployment) (payment : String) : Deployment :=
  { deployment with payments := deployment.payments ++ [payment] }

def ofPlan (plan : Plan) : Deployment :=
  let fresh : Deployment :=
    { plan
      world := .ofPartitions plan.partitions
      gateway :=
        { limiter := plan.limiter
          intake := if plan.playsPayment then some plan.intake else none
          inquiry :=
            if plan.playsLedger then some plan.balanceLifetime else none }
      members := []
      seats := .empty
      workers := []
      clock := 0
      spans := 0
      accounts := []
      payments := [] }
  plan.accounts.foldl
    (fun deployment account =>
      deployment.openAccount account.1 account.2.1 account.2.2)
    (fresh.ensureJoined mainMember)

/-- Let a moment pass, so that what happens next has a time of its own. -/
def tick (deployment : Deployment) : Deployment :=
  let world := deployment.world
  { deployment with world := { world with moment := world.moment.tick } }

/-- A new number, which is above zero. -/
def freshNumber (deployment : Deployment) : Nat :=
  deployment.spans % (2 ^ 64 - 1) + 1

/-- A span that has not been used. -/
def freshSpan (deployment : Deployment) : Span where
  number := deployment.freshNumber
  positive := Nat.succ_pos _
  bounded := by
    have := Nat.mod_lt deployment.spans (show 0 < 2 ^ 64 - 1 by decide)
    simp only [freshNumber]
    omega

/-- A trace that has not been used, and the span of an event in it. -/
def freshTrace (deployment : Deployment) : FreshTrace where
  root := .root
    { number := deployment.freshNumber
      positive := Nat.succ_pos _
      bounded := Nat.lt_trans deployment.freshSpan.bounded (by decide) }
    deployment.freshSpan
  span := deployment.freshSpan

def countSpan (deployment : Deployment) : Deployment :=
  { deployment with spans := deployment.spans + 1 }

end Deployment

end Clearing.Simulation
