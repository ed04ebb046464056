import Clearing.Simulation.Plan
/-!
What can be done to a deployment, and what is seen of it.
-/

namespace Clearing.Simulation

/-- The connections that can be broken and mended. -/
inductive Switch where
  | broker
  | ledger
  | book
  | cacheRead
  | cacheWrite
  | cacheDelete
  | cachePurge
  | cacheSilent
  | ledgerSilent
  | outboxRead
  | outboxMark
  | commit
deriving DecidableEq

def Switch.ofName? : String → Option Switch
  | "broker" => some .broker
  | "ledger" => some .ledger
  | "repo" => some .book
  | "kv_get" => some .cacheRead
  | "kv_set" => some .cacheWrite
  | "kv_delete" => some .cacheDelete
  | "kv_purge" => some .cachePurge
  | "kv_hang" => some .cacheSilent
  | "ledger_hang" => some .ledgerSilent
  | "outbox_pending" => some .outboxRead
  | "outbox_mark" => some .outboxMark
  | "commit" => some .commit
  | _ => none

inductive Step where
  | pay (request : PaymentRequest) (context : TraceContext)
  | findPayment (id : String)
  | checkBalance (account : String)
  | insertRecord (record : Timestamp → PaymentRecord)
      (message : Option OutboundMessage)
  | getRecord (id : String)
  | updateStatus (id : String) (status : PaymentStatus)
  | openAccount (id : String) (currency : Currency) (balance : Decimal)
  | readAccount (id : String)
  | balanceOf (id : String)
  | transfer (order : TransferOrder)
  | publish (message : OutboundMessage)
  | publishEvent (event : SettlementEvent) (context : TraceContext)
  | join (member group topic : String)
  | fetch (member : String)
  | beginWait (member : String)
  | pollWait (member : String)
  | endWait (member : String)
  | process (member holder : String)
  | commit (member : String) (offset : Option Int)
  | settleNext (member : String)
  | heldHeader (member name : String)
  | committed (group topic : String) (partition : Int)
  | messageCount (topic : String)
  | stats (member : String)
  | pushOutbox (message : OutboundMessage)
  | pollOutbox (limit : Nat)
  | markOutbox (id : Int)
  | relayOnce
  | cacheSet (key : String) (value : Bytes) (lifetime : Nat)
  | cacheGet (key : String)
  | cacheDelete (key : String)
  | cachePurge
  | cacheSize
  | cachedBalance (account : String)
  | cacheBalance (account : String) (snapshot : Snapshot)
  | dropBalance (account : String)
  | recallReceipt (key : String)
  | rememberReceipt (key : String) (receipt : Receipt)
  | allow (client : String) (time times : Nat)
  | evict (time : Nat)
  | check (client : String)
  | tracked
  | handle (request : HttpRequest)
  | switch (what : Switch) (broken : Bool)
  | start (name : WorkerName) (interval : Nat)
  | stop (name : WorkerName)
  | advance (milliseconds : Nat)
  | report

/-- The members whom a step takes to have joined. -/
def Step.members : Step → List String
  | .fetch member
  | .beginWait member
  | .pollWait member
  | .endWait member
  | .commit member _
  | .settleNext member
  | .heldHeader member _
  | .stats member
  | .start (.settlement member) _ => [member]
  | .process member holder => [member, holder]
  | _ => []

/-- Why a step has no answer of its own. -/
inductive StepError where
  | service (error : ServiceError)
  | payment (error : PaymentError)
  | ledger (error : LedgerError)
  | bus (error : BusError)
  | cache (error : CacheError)
  | noMessage
  | notWaiting
  /-- The step never came to an end. -/
  | hang

/-- What is seen of a deployment as a whole. -/
structure Report where
  accounts : List Account
  payments : List PaymentRecord
  committed : List (Option Int)
  messages : Nat
  unpublished : Nat
  outboxPolls : Nat
  paymentCount : Nat
  transferCalls : Nat
  cacheEntries : Nat
  clients : Nat
  dispatch : Dispatch
  partitions : Int
  stats : SettlementStats

inductive Answer where
  | done
  | pending
  | flag (value : Bool)
  | number (value : Nat)
  | offset (value : Option Int)
  | text (value : Option String)
  | bytes (value : Option Bytes)
  | receipt (value : Option Receipt)
  | payment (value : PaymentView)
  | balance (value : BalanceView)
  | inserted (value : InsertOutcome)
  | record (value : Option PaymentRecord)
  | account (value : Option Account)
  | amount (value : Option Decimal)
  | transferred (value : TransferOutcome)
  | placed (value : Placement)
  | message (value : InboundMessage)
  | disposition (value : Disposition)
  | settled (value : Disposition) (message : InboundMessage)
  | stats (value : SettlementStats)
  | entries (value : List OutboxEntry)
  | snapshot (value : Option Snapshot)
  | tracked (clients limit : Nat)
  | response (value : HttpResponse)
  | report (value : Report)
  | failed (error : StepError)

end Clearing.Simulation
