import Clearing.Balance.Cache
import Clearing.Service.Call
import Clearing.Settlement.Disposition
/-!
The delivery of one message to the ledger.  The transfer is carried out, the
cached balances of both accounts are dropped if it was applied, and the
status of the payment is recorded if its fate is known.  Failures of the cache
and of the record change nothing about the disposition.
-/

namespace Clearing

/-- Where the status of a settled payment goes. -/
inductive StatusSink where
  /-- Into the payment book. -/
  | book
  /-- Into the log of the process only. -/
  | log
deriving DecidableEq

/-- The order that a settlement event gives, in the currency of its code. -/
def SettlementEvent.order (event : SettlementEvent) (currency : Currency) :
    TransferOrder where
  id := event.id
  source := event.source
  destination := event.destination
  amount := event.amount
  currency := currency

inductive DeliveryStage where
  | receive (payload : Bytes)
  | dropSource (order : TransferOrder)
  | dropDestination (order : TransferOrder)
  | record (id : String) (status : PaymentStatus) (disposition : Disposition)
deriving DecidableEq

abbrev Delivery := Call DeliveryStage Disposition

namespace Delivery

def begin (payload : Bytes) : Delivery := .running (.receive payload)

/-- Go on to record the status that a disposition resolves to, if any. -/
def conclude (id : String) (disposition : Disposition) : Delivery :=
  match disposition.resolvedStatus with
  | some status => .running (.record id status disposition)
  | none => .answered disposition

def ofResult (order : TransferOrder) :
    Except LedgerError TransferOutcome → Delivery
  | .ok (.applied _ _) => .running (.dropSource order)
  | .ok .alreadySettled => conclude order.id .alreadySettled
  | .error error =>
      if error.isTransient then
        .answered .deferred
      else
        conclude order.id (.rejected error.code)

/-- The code of a rejection for a currency that is not supported. -/
def unsupportedCurrency : String := "UNSUPPORTED_CURRENCY"

def step (sink : StatusSink) (world : World) : DeliveryStage → Delivery × World
  | .receive payload =>
      match SettlementEvent.decode payload with
      | .error _ => (.answered .poison, world)
      | .ok event =>
          match Currency.parse? event.currency with
          | none => (conclude event.id (.rejected unsupportedCurrency), world)
          | some currency =>
              if world.faults.ledgerSilent then
                (.running (.receive payload), world)
              else
                let order := event.order currency
                let (result, world) := world.transfer order
                (ofResult order result, world)
  | .dropSource order =>
      if world.faults.cacheSilent then
        (.running (.dropSource order), world)
      else
        (.running (.dropDestination order), (world.dropBalance order.source).2)
  | .dropDestination order =>
      if world.faults.cacheSilent then
        (.running (.dropDestination order), world)
      else
        (conclude order.id .settled, (world.dropBalance order.destination).2)
  | .record id status disposition =>
      match sink with
      | .book => (.answered disposition, (world.updateStatus id status).2)
      | .log => (.answered disposition, world)

def steps : Nat := 4

end Delivery

/-- Deliver a payload with nothing in between. -/
def World.settle (world : World) (sink : StatusSink) (payload : Bytes) :
    Delivery × World :=
  Call.run (Delivery.step sink) Delivery.steps world (Delivery.begin payload)

end Clearing
