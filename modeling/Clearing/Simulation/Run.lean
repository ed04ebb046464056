import Clearing.Balance.Inquiry
import Clearing.Payment.Intake
import Clearing.Simulation.Step
import Clearing.Simulation.Workers
/-!
Running a simulated deployment.  After each step the background workers act
until all of them wait.  A step that asks for something that never answers is
given up after a minute, and a request to the gateway after its deadline.
-/

namespace Clearing.Simulation.Deployment

/-- The answer to a step, and the deployment after it. -/
abbrev Outcome := Answer × Deployment

/-- Milliseconds after which a step that does not end is given up. -/
def patience : Nat := 60000

/-- Give a step up. -/
def hang (deployment : Deployment) : Outcome :=
  (.failed .hang, deployment.elapse patience)

def answer {Error Value : Type} (deployment : Deployment)
    (error : Error → StepError) (success : Value → Answer) :
    Except Error Value → Outcome
  | .ok value => (success value, deployment)
  | .error reason => (.failed (error reason), deployment)

/-- Answer with what a call came to, or give up if it came to nothing. -/
def answerCall {Stage Error Value : Type} (deployment : Deployment)
    (error : Error → StepError) (success : Value → Answer)
    (call : Call Stage (Except Error Value)) : Outcome :=
  match call with
  | .answered result => deployment.answer error success result
  | .running _ => deployment.hang

/-- Answer with the result of a use of the cache, unless the cache is silent. -/
def answerCache {Value : Type} (deployment : Deployment)
    (success : Value → Answer) (result : Except CacheError Value × World) :
    Outcome :=
  if deployment.world.faults.cacheSilent then
    deployment.hang
  else
    { deployment with world := result.2 }.answer .cache success result.1

/-- Hand the result of a fetch to the seat of a member. -/
def handOver (deployment : Deployment) (name : String) :
    Except BusError (Option InboundMessage) → Outcome
  | .error error =>
      (.failed (.bus error),
        deployment.withSeat name
          { deployment.seat name with waiting := none })
  | .ok (some message) =>
      (.message message,
        deployment.withSeat name
          { deployment.seat name with
            held := some message
            waiting := none })
  | .ok none => (.pending, deployment)

def fetch (deployment : Deployment) (name : String) : Outcome :=
  let (result, member) :=
    (deployment.memberOf name).fetch deployment.world.broker
  let waiting := (deployment.seat name).waiting
  let (answer, deployment) :=
    (deployment.withMemberOf name member).handOver name result
  (answer,
    deployment.withSeat name { deployment.seat name with waiting := waiting })

/-- Fetch, and go on waiting if there is no message. -/
def fetchWaiting (deployment : Deployment) (name : String) : Outcome :=
  let (result, member) :=
    (deployment.memberOf name).fetch deployment.world.broker
  let deployment :=
    (deployment.withMemberOf name member).withSeat name
      { deployment.seat name with
        waiting := some deployment.world.broker.signals }
  deployment.handOver name result

/-- Look after a waiting fetch, which tries again only after a signal. -/
def pollWait (deployment : Deployment) (name : String) : Outcome :=
  match (deployment.seat name).waiting with
  | none => (.failed .notWaiting, deployment)
  | some seen =>
      if seen = deployment.world.broker.signals then
        (.pending, deployment)
      else
        deployment.fetchWaiting name

def settle (deployment : Deployment) (name : String)
    (message : InboundMessage) : Option Disposition × Deployment :=
  let (delivery, world) :=
    deployment.world.settle deployment.plan.sink message.payload
  let deployment := { deployment with world := world }
  match delivery with
  | .running _ => (none, deployment)
  | .answered disposition =>
      let member := deployment.memberOf name
      (some disposition,
        deployment.withMemberOf name
          { member with stats := member.stats.count disposition })

def process (deployment : Deployment) (name holder : String) : Outcome :=
  match (deployment.seat holder).held with
  | none => (.failed .noMessage, deployment)
  | some message =>
      match deployment.settle name message with
      | (some disposition, deployment) => (.disposition disposition, deployment)
      | (none, deployment) => deployment.hang

def commitMessage (deployment : Deployment) (name : String)
    (message : InboundMessage) : Except BusError Unit × Deployment :=
  let group := (deployment.memberOf name).consumer.group
  let (result, world) := deployment.world.commit group message
  (result, { deployment with world := world })

/--
Bring an offset to where its successor is a word of 64 bits; the lowest word
follows the highest.
-/
def beforeWord (offset : Int) : Int :=
  (offset + 1).bmod (2 ^ 64) - 1

def commit (deployment : Deployment) (name : String) (offset : Option Int) :
    Outcome :=
  match (deployment.seat name).held with
  | none => (.failed .noMessage, deployment)
  | some message =>
      let message :=
        { message with offset := beforeWord (offset.getD message.offset) }
      let (result, deployment) := deployment.commitMessage name message
      deployment.answer .bus (fun _ => .done) result

/-- Fetch, settle and commit the next message of a member. -/
def settleNext (deployment : Deployment) (name : String) : Outcome :=
  let (result, member) :=
    (deployment.memberOf name).fetch deployment.world.broker
  let deployment := deployment.withMemberOf name member
  match result with
  | .error error => (.failed (.bus error), deployment)
  | .ok none => (.pending, deployment)
  | .ok (some message) =>
      match deployment.settle name message with
      | (none, deployment) => deployment.hang
      | (some disposition, deployment) =>
          let (result, deployment) := deployment.commitMessage name message
          deployment.answer .bus (fun _ => .settled disposition message) result

/-- Count a number of requests and tell how many more were admitted. -/
def allowMany (client : String) (time : Nat) : (times admitted : Nat) →
    Limiter → Nat × Limiter
  | 0, admitted, limiter => (admitted, limiter)
  | times + 1, admitted, limiter =>
      let (allowed, limiter) := limiter.allow client time
      allowMany client time times (admitted + allowed.toNat) limiter

def withLimiter (deployment : Deployment) (limiter : Limiter) : Deployment :=
  let gateway := deployment.gateway
  { deployment with gateway := { gateway with limiter := limiter } }

def handle (deployment : Deployment) (request : HttpRequest) : Outcome :=
  let (response, gateway, world) :=
    deployment.gateway.handle deployment.world request deployment.freshTrace
  let deployment :=
    { deployment with
      gateway := gateway
      world := world }.countSpan
  match response with
  | some response => (.response response, deployment)
  | none =>
      (.response (HttpResponse.timedOut.forMethod request.method),
        deployment.elapse (requestDeadline / 10 ^ 6))

/-- Why a broken connection to the cache fails. -/
def refusedConnection : CacheError := .unavailable "connection refused"

/-- Break a connection or mend it. -/
def switch (world : World) (what : Switch) (broken : Bool) : World :=
  let faults := world.faults
  let cacheError := if broken then some refusedConnection else none
  let busError := fun reason : String =>
    if broken then some (BusError.unavailable reason) else none
  match what with
  | .broker =>
      { world with
        broker := world.broker.setOutage (busError "memory broker offline") }
  | .ledger => { world with ledger := { world.ledger with online := !broken } }
  | .book => { world with book := { world.book with online := !broken } }
  | .cacheRead => { world with faults := { faults with cacheRead := cacheError } }
  | .cacheWrite =>
      { world with faults := { faults with cacheWrite := cacheError } }
  | .cacheDelete =>
      { world with faults := { faults with cacheDelete := cacheError } }
  | .cachePurge =>
      { world with faults := { faults with cachePurge := cacheError } }
  | .cacheSilent => { world with faults := { faults with cacheSilent := broken } }
  | .ledgerSilent =>
      { world with faults := { faults with ledgerSilent := broken } }
  | .outboxRead =>
      { world with
        faults := { faults with outboxRead := busError "outbox offline" } }
  | .outboxMark =>
      { world with
        faults := { faults with outboxMark := busError "outbox offline" } }
  | .commit =>
      { world with faults := { faults with commit := busError "commit refused" } }

/-- A worker who can do the job of a name, and who acts when it is due. -/
def newWorker (deployment : Deployment) (name : WorkerName) (interval : Nat) :
    Worker :=
  let later : WorkerState := .sleeping (deployment.clock + interval)
  match name with
  | .relay => ⟨some name, .relay, .ready⟩
  | .settlement member =>
      ⟨some name, .settlement (deployment.seat member).member, .ready⟩
  | .cacheSweeper => ⟨some name, .cacheSweeper interval, later⟩
  | .limitSweeper => ⟨some name, .limitSweeper interval, later⟩

/-- A sweeper at an interval of nothing gives up at once. -/
def canWork (name : WorkerName) (interval : Nat) : Bool :=
  match name with
  | .relay | .settlement _ => true
  | .cacheSweeper | .limitSweeper => decide (0 < interval)

/--
Start a worker; sweepers act for the first time after one interval.  A worker
of the same name goes on, but no longer under that name.
-/
def startWorker (deployment : Deployment) (name : WorkerName) (interval : Nat) :
    Deployment :=
  let others := deployment.workers.map fun worker =>
    if worker.name = some name then { worker with name := none } else worker
  { deployment with
    workers :=
      if canWork name interval then
        others ++ [deployment.newWorker name interval]
      else
        others }

/--
Stop a worker.  A member that is stopped with a message in hand leaves it
uncommitted; it is in vain to wait for a sweeper that waits for the cache.
-/
def stopWorker (deployment : Deployment) (name : WorkerName) : Outcome :=
  match deployment.workers.find? (·.name = some name) with
  | none => (.done, deployment)
  | some worker =>
      let stopped :=
        { deployment with workers := deployment.workers.erase worker }
      match worker.job, worker.state with
      | .cacheSweeper _, .stuck => stopped.hang
      | .settlement number, _ =>
          (.done,
            stopped.withMember number
              { stopped.member number with task := .idle })
      | _, _ => (.done, stopped)

def report (deployment : Deployment) : Report :=
  let plan := deployment.plan
  let world := deployment.world
  { accounts := deployment.accounts.eraseDups.filterMap world.ledger.account?
    payments :=
      deployment.payments.eraseDups.filterMap world.book.records.get?
    committed := (List.range world.broker.partitions).map
      (world.broker.committed? plan.group plan.topic)
    messages := world.broker.messageCount plan.topic
    unpublished := world.book.outbox.unpublished.length
    outboxPolls := world.book.outbox.polls
    paymentCount := world.book.records.size
    transferCalls := world.ledger.calls
    cacheEntries := world.store.size
    clients := deployment.gateway.limiter.clients.size
    dispatch := plan.dispatch
    partitions := plan.partitions
    stats := (deployment.memberOf mainMember).stats }

/-- Do what a step says, without the workers. -/
def perform (deployment : Deployment) (step : Step) : Outcome :=
  let world := deployment.world
  let plan := deployment.plan
  match step with
  | .pay request context =>
      let traced : TracedRequest :=
        { request, context
          span := deployment.freshSpan }
      let (call, world) := world.initiatePayment plan.intake traced
      ({ deployment with world := world }.countSpan.name
        (Text.trim request.id)).answerCall .service
          (fun receipt => .receipt (some receipt)) call
  | .findPayment id =>
      deployment.answer .service .payment (world.findPayment id)
  | .checkBalance account =>
      let (call, world) := world.checkBalance plan.balanceLifetime account
      { deployment with world := world }.answerCall .service .balance call
  | .insertRecord record message =>
      let record := record world.moment
      let (result, world) := world.insertPayment record message
      ({ deployment with world := world }.name record.id).answer .payment
        .inserted result
  | .getRecord id => deployment.answer .payment .record (world.book.get id)
  | .updateStatus id status =>
      let (result, world) := world.updateStatus id status
      { deployment with world := world }.answer .payment .flag result
  | .openAccount id currency balance =>
      (.done, deployment.openAccount id currency balance)
  | .readAccount id =>
      deployment.answer .ledger .account (world.ledger.read id)
  | .balanceOf id =>
      (.amount ((world.ledger.account? id).map Account.balance), deployment)
  | .transfer order =>
      let (result, world) := world.transfer order
      { deployment with world := world }.answer .ledger .transferred result
  | .publish message =>
      let (result, world) := world.publish message
      { deployment with world := world }.answer .bus .placed result
  | .publishEvent event context =>
      let (result, world) :=
        world.publish (.settlement plan.topic event context)
      ({ deployment with world := world }.name event.id).answer .bus .placed
        result
  | .join member group topic =>
      (.done, deployment.join member group topic)
  | .fetch member => deployment.fetch member
  | .beginWait member => deployment.fetchWaiting member
  | .pollWait member => deployment.pollWait member
  | .endWait member =>
      (.done,
        deployment.withSeat member
          { deployment.seat member with waiting := none })
  | .process member holder => deployment.process member holder
  | .commit member offset => deployment.commit member offset
  | .settleNext member => deployment.settleNext member
  | .heldHeader member name =>
      match (deployment.seat member).held with
      | none => (.failed .noMessage, deployment)
      | some message => (.text (message.headers.get? name), deployment)
  | .committed group topic partition =>
      (.offset
        (if partition < 0 then
          none
        else
          world.broker.committed? group topic partition.toNat), deployment)
  | .messageCount topic =>
      (.number (world.broker.messageCount topic), deployment)
  | .stats member =>
      (.stats (deployment.memberOf member).stats, deployment)
  | .pushOutbox message =>
      let (id, outbox) := world.book.outbox.push message
      (.number id,
        { deployment with
          world :=
            { world with book := { world.book with outbox := outbox } } })
  | .pollOutbox limit =>
      let (entries, world) := world.pollOutbox limit
      (.entries entries, { deployment with world := world })
  | .markOutbox id =>
      let world := if id < 0 then world else world.markPublished id.toNat
      (.number world.book.outbox.unpublished.length,
        { deployment with world := world })
  | .relayOnce =>
      let (call, world) := world.relayOnce plan.batchSize
      { deployment with world := world }.answerCall .bus .number call
  | .cacheSet key value lifetime =>
      deployment.answerCache (fun _ => .done) (world.cacheSet key value lifetime)
  | .cacheGet key => deployment.answerCache .bytes (world.cacheGet key)
  | .cacheDelete key =>
      deployment.answerCache (fun _ => .done) (world.cacheDelete key)
  | .cachePurge => deployment.answerCache .number world.cachePurge
  | .cacheSize => (.number world.store.size, deployment)
  | .cachedBalance account =>
      deployment.answerCache .snapshot (world.cachedBalance account)
  | .cacheBalance account snapshot =>
      deployment.answerCache (fun _ => .done)
        (world.cacheBalance account snapshot plan.balanceLifetime)
  | .dropBalance account =>
      deployment.answerCache (fun _ => .done) (world.dropBalance account)
  | .recallReceipt key =>
      deployment.answerCache .receipt (world.recallReceipt key)
  | .rememberReceipt key receipt =>
      deployment.answerCache (fun _ => .done)
        (world.rememberReceipt key receipt plan.receiptLifetime)
  | .allow client time times =>
      let (admitted, limiter) :=
        allowMany client time times 0 deployment.gateway.limiter
      (if times = 1 then .flag (admitted == 1) else .number admitted,
        deployment.withLimiter limiter)
  | .evict time =>
      let (evicted, limiter) := deployment.gateway.limiter.evict time
      (.number evicted, deployment.withLimiter limiter)
  | .check client =>
      let (admitted, limiter) :=
        deployment.gateway.limiter.allow client world.now
      (if admitted then .done else .failed (.service .rateLimited),
        deployment.withLimiter limiter)
  | .tracked =>
      let limiter := deployment.gateway.limiter
      (.tracked limiter.clients.size limiter.limit, deployment)
  | .handle request => deployment.handle request
  | .switch what broken =>
      (.done, { deployment with world := switch world what broken })
  | .start name interval => (.done, deployment.startWorker name interval)
  | .stop name => deployment.stopWorker name
  | .advance milliseconds => (.done, deployment.elapse milliseconds)
  | .report => (.report deployment.report, deployment)

/-- Do what a step says and let the workers act. -/
def step (deployment : Deployment) (step : Step) : Outcome :=
  let (answer, deployment) :=
    (step.members.foldl ensureJoined deployment.tick).perform step
  (answer, deployment.runWorkers)

def steps (deployment : Deployment) : List Step → List Answer × Deployment
  | [] => ([], deployment)
  | next :: rest =>
      let (answer, deployment) := deployment.step next
      let (answers, deployment) := deployment.steps rest
      (answer :: answers, deployment)

end Clearing.Simulation.Deployment
