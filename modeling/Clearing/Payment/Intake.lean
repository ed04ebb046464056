import Clearing.Payment.Idempotency
import Clearing.Service.Call
import Clearing.Service.Error
/-!
Payment intake.  A request is answered from the receipt that its idempotency
key is remembered with, if there is one.  Otherwise it is checked, stored,
announced to the ledger and remembered, in this order.
-/

namespace Clearing

/-- How the settlement event of a payment leaves the intake. -/
inductive Dispatch where
  /-- It is stored with the payment, and the relay publishes it. -/
  | outbox
  /-- It is published as soon as the payment is stored. -/
  | direct
deriving DecidableEq

def Dispatch.name : Dispatch → String
  | .outbox => "outbox"
  | .direct => "direct"

def Dispatch.ofName? : String → Option Dispatch
  | "outbox" => some .outbox
  | "direct" => some .direct
  | _ => none

structure IntakeSettings where
  dispatch : Dispatch
  topic : String
  /-- How long receipts are remembered, in nanoseconds. -/
  lifetime : Nat
deriving DecidableEq

/-- A request with the trace it belongs to and the span of its event. -/
structure TracedRequest where
  request : PaymentRequest
  context : TraceContext
  span : Span
deriving DecidableEq

def TracedRequest.key (traced : TracedRequest) : String :=
  Text.trim traced.request.idempotencyKey

inductive IntakeStage where
  | recall (traced : TracedRequest)
  | store (record : PaymentRecord) (message : OutboundMessage)
  | announce (record : PaymentRecord) (message : OutboundMessage)
  | remember (record : PaymentRecord)
deriving DecidableEq

abbrev Intake := Call IntakeStage (Except ServiceError Receipt)

namespace Intake

def begin (traced : TracedRequest) : Intake :=
  if traced.key = "" then
    .answered (.error (.invalidArgument "idempotency_key is required"))
  else
    .running (.recall traced)

/-- Check a request and make the record and the message of its payment. -/
def prepare (settings : IntakeSettings) (moment : Timestamp)
    (traced : TracedRequest) : Intake :=
  match traced.request.validate with
  | .error error => .answered (.error (.invalidArgument error.message))
  | .ok payment =>
      .running
        (.store (.pending payment moment)
          (.settlement settings.topic (.ofPayment payment moment)
            (traced.context.child traced.span)))

/-- The message that is stored along with a payment, if any is. -/
def storedMessage (settings : IntakeSettings) (message : OutboundMessage) :
    Option OutboundMessage :=
  match settings.dispatch with
  | .outbox => some message
  | .direct => none

def afterStore (settings : IntakeSettings) (record : PaymentRecord)
    (message : OutboundMessage) : Intake :=
  match settings.dispatch with
  | .outbox => .running (.remember record)
  | .direct => .running (.announce record message)

def ofOutcome (settings : IntakeSettings) (record : PaymentRecord)
    (message : OutboundMessage) : Except PaymentError InsertOutcome → Intake
  | .error (.conflict id) =>
      .answered (.error (.conflict
        ("payment " ++ id ++ " already exists with different parameters")))
  | .error _ => .answered (.error (.internal "failed to save payment"))
  | .ok (.keyTaken owner) => .answered (.ok (.pending owner))
  | .ok .inserted | .ok .duplicate => afterStore settings record message

def step (settings : IntakeSettings) (world : World) :
    IntakeStage → Intake × World
  | .recall traced =>
      if world.faults.cacheSilent then
        (.running (.recall traced), world)
      else
        match world.recallReceipt traced.key with
        | (.error _, world) =>
            (.answered (.error (.internal "idempotency store unavailable")),
              world)
        | (.ok (some receipt), world) => (.answered (.ok receipt), world)
        | (.ok none, world) => (prepare settings world.moment traced, world)
  | .store record message =>
      let (outcome, world) :=
        world.insertPayment record (storedMessage settings message)
      (ofOutcome settings record message outcome, world)
  | .announce record message =>
      match world.publish message with
      | (.error _, world) =>
          (.answered (.error (.internal "failed to publish settlement event")),
            world)
      | (.ok _, world) => (.running (.remember record), world)
  | .remember record =>
      if world.faults.cacheSilent then
        (.running (.remember record), world)
      else
        let receipt := Receipt.pending record.id
        let (_, world) :=
          world.rememberReceipt record.idempotencyKey receipt settings.lifetime
        (.answered (.ok receipt), world)

def steps : Nat := 4

end Intake

/-- Handle a request with nothing in between. -/
def World.initiatePayment (world : World) (settings : IntakeSettings)
    (traced : TracedRequest) : Intake × World :=
  Call.run (Intake.step settings) Intake.steps world (Intake.begin traced)

/-- The details of a stored payment. -/
def World.findPayment (world : World) (id : String) :
    Except ServiceError PaymentView :=
  let id := Text.trim id
  if id = "" then
    .error (.invalidArgument "payment_id is required")
  else
    match world.book.get id with
    | .error _ => .error (.internal "failed to load payment")
    | .ok none => .error (.notFound "payment not found")
    | .ok (some record) => .ok record.view

end Clearing
