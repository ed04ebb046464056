import Clearing.Bus.Broker
import Clearing.Cache.Error
import Clearing.Cache.Store
import Clearing.Ledger.Accounts
import Clearing.Payment.Book
/-!
The state that the services of a deployment share: the stores, the broker, the
clock, and which of the connections to them are out of order.
-/

namespace Clearing

/-- Connections that fail or, which is worse, never answer. -/
structure Faults where
  cacheRead : Option CacheError
  cacheWrite : Option CacheError
  cacheDelete : Option CacheError
  cachePurge : Option CacheError
  outboxRead : Option BusError
  outboxMark : Option BusError
  commit : Option BusError
  cacheSilent : Bool
  ledgerSilent : Bool
deriving DecidableEq

/-- Every connection works. -/
def Faults.none : Faults where
  cacheRead := .none
  cacheWrite := .none
  cacheDelete := .none
  cachePurge := .none
  outboxRead := .none
  outboxMark := .none
  commit := .none
  cacheSilent := false
  ledgerSilent := false

structure World where
  ledger : Ledger
  book : PaymentBook
  broker : Broker
  store : Store
  faults : Faults
  /-- The reading of the clock that expiry goes by, in nanoseconds. -/
  now : Nat
  /-- The moment that new records and events bear. -/
  moment : Timestamp

namespace World

/-- Empty stores, and a broker with the given number of partitions. -/
def ofPartitions (partitions : Int) : World where
  ledger := .empty
  book := .empty
  broker := .ofPartitions partitions
  store := .empty
  faults := .none
  now := 0
  moment := .sample

/-- A world in which no database can be reached. -/
def disconnected (partitions : Int) : World :=
  { ofPartitions partitions with
    ledger := { Ledger.empty with online := false }
    book := { PaymentBook.empty with online := false }
    broker := (Broker.ofPartitions partitions).setOutage (some .storage)
    faults :=
      { Faults.none with
        cacheRead := some .database
        cacheWrite := some .database
        cacheDelete := some .database
        cachePurge := some .database
        outboxRead := some .storage
        outboxMark := some .storage
        commit := some .storage } }

def cacheGet (world : World) (key : String) :
    Except CacheError (Option Bytes) × World :=
  match world.faults.cacheRead with
  | some error => (.error error, world)
  | none =>
      let (value?, store) := world.store.get key world.now
      (.ok value?, { world with store := store })

def cacheSet (world : World) (key : String) (value : Bytes) (lifetime : Nat) :
    Except CacheError Unit × World :=
  match world.faults.cacheWrite with
  | some error => (.error error, world)
  | none =>
      (.ok (),
        { world with store := world.store.set key value lifetime world.now })

def cacheDelete (world : World) (key : String) :
    Except CacheError Unit × World :=
  match world.faults.cacheDelete with
  | some error => (.error error, world)
  | none => (.ok (), { world with store := world.store.delete key })

def cachePurge (world : World) : Except CacheError Nat × World :=
  match world.faults.cachePurge with
  | some error => (.error error, world)
  | none =>
      let (purged, store) := world.store.purge world.now
      (.ok purged, { world with store := store })

def publish (world : World) (message : OutboundMessage) :
    Except BusError Placement × World :=
  let (result, broker) := world.broker.publish message
  (result, { world with broker := broker })

def commit (world : World) (group : String) (message : InboundMessage) :
    Except BusError Unit × World :=
  match world.faults.commit with
  | some error => (.error error, world)
  | none =>
      (.ok (),
        { world with
          broker := world.broker.commit group message.topic message.partition
            (message.offset + 1) })

def transfer (world : World) (order : TransferOrder) :
    Except LedgerError TransferOutcome × World :=
  let (result, ledger) := world.ledger.transfer order
  (result, { world with ledger := ledger })

def insertPayment (world : World) (record : PaymentRecord)
    (message : Option OutboundMessage) :
    Except PaymentError InsertOutcome × World :=
  let (result, book) := world.book.insert record message
  (result, { world with book := book })

def updateStatus (world : World) (id : String) (status : PaymentStatus) :
    Except PaymentError Bool × World :=
  let (result, book) := world.book.updateStatus id status world.moment
  (result, { world with book := book })

def pollOutbox (world : World) (limit : Nat) : List OutboxEntry × World :=
  let (entries, outbox) := world.book.outbox.poll limit
  (entries, { world with book := { world.book with outbox := outbox } })

def markPublished (world : World) (id : Nat) : World :=
  let outbox := world.book.outbox.markPublished id
  { world with book := { world.book with outbox := outbox } }

end World

end Clearing
