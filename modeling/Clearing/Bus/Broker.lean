import Clearing.Bus.Error
import Clearing.Bus.Message
import Clearing.Bus.Partition
import Clearing.Table
/-!
The broker: for every topic a fixed number of partitions, each a log of
messages that only grows, and for every group of consumers the offsets up to
which it is done.  A consumer reads every partition in order, from the offset
that its group had committed when the consumer first looked.
-/

namespace Clearing

/-- A message as a log holds it. -/
structure LogEntry where
  key : String
  payload : Bytes
  headers : Headers
deriving DecidableEq

/-- The place of a log: a topic and one of its partitions. -/
structure LogName where
  topic : String
  partition : Nat
deriving DecidableEq

structure GroupLog where
  group : String
  log : LogName
deriving DecidableEq

structure Broker where
  partitions : Nat
  logs : Table LogName (List LogEntry)
  /-- The offset that each group wants next. -/
  commits : Table GroupLog Int
  /-- Why messages can be neither published nor fetched, if they cannot. -/
  outage : Option BusError
  /-- The number of events that wake waiting consumers. -/
  signals : Nat
  partitions_pos : 0 < partitions

namespace Broker

/-- A broker with at least one partition a topic. -/
def ofPartitions (requested : Int) : Broker where
  partitions := partitionCount requested
  logs := .empty
  commits := .empty
  outage := none
  signals := 0
  partitions_pos := Nat.lt_of_lt_of_le Nat.one_pos (Nat.le_max_left _ _)

/-- The log of a partition, which is empty before anything is published. -/
def log (broker : Broker) (name : LogName) : List LogEntry :=
  (broker.logs.get? name).getD []

def hasTopic (broker : Broker) (topic : String) : Bool :=
  broker.logs.keys.any fun name => name.topic == topic

/-- The number of messages that were ever published to a topic. -/
def messageCount (broker : Broker) (topic : String) : Nat :=
  (broker.logs.filter fun name _ => name.topic == topic).values.foldl
    (fun total entries => total + entries.length) 0

def committed? (broker : Broker) (group topic : String) (partition : Nat) :
    Option Int :=
  broker.commits.get? ⟨group, ⟨topic, partition⟩⟩

/-- Append a message to the log that its key belongs to. -/
def append (broker : Broker) (message : OutboundMessage) :
    Placement × Broker :=
  let partition := partitionFor message.key broker.partitions
  let name : LogName := ⟨message.topic, partition⟩
  let held := broker.log name
  let entry : LogEntry := ⟨message.key, message.payload, message.headers⟩
  (⟨partition, held.length⟩,
    { broker with
      logs := broker.logs.insert name (held ++ [entry])
      signals := broker.signals + 1 })

def publish (broker : Broker) (message : OutboundMessage) :
    Except BusError Placement × Broker :=
  match broker.outage with
  | some error => (.error error, broker)
  | none =>
      let (placement, broker) := broker.append message
      (.ok placement, broker)

/-- Note that a group is done with everything before an offset. -/
def commit (broker : Broker) (group topic : String) (partition : Nat)
    (next : Int) : Broker :=
  let name : GroupLog := ⟨group, ⟨topic, partition⟩⟩
  let latest :=
    match broker.commits.get? name with
    | some held => max held next
    | none => next
  { broker with commits := broker.commits.insert name latest }

def setOutage (broker : Broker) (outage : Option BusError) : Broker :=
  { broker with
    outage := outage
    signals := if outage.isNone then broker.signals + 1 else broker.signals }

end Broker

/-- A member of a group, and the offset it reads next in each partition. -/
structure Consumer where
  group : String
  topic : String
  /-- Not known before the first look at the broker. -/
  positions : Option (List Int)
  /-- The number of looks, which decides where the next one starts. -/
  turn : Nat
deriving DecidableEq

namespace Consumer

def join (group topic : String) : Consumer where
  group := group
  topic := topic
  positions := none
  turn := 0

def committedPositions (consumer : Consumer) (broker : Broker) : List Int :=
  (List.range broker.partitions).map fun partition =>
    (broker.committed? consumer.group consumer.topic partition).getD 0

def messageAt (consumer : Consumer) (broker : Broker) (partition : Nat)
    (offset : Int) : Option InboundMessage :=
  if offset < 0 then
    none
  else
    (broker.log ⟨consumer.topic, partition⟩)[offset.toNat]?.map fun entry =>
      { topic := consumer.topic
        partition := partition
        offset := offset
        key := entry.key
        payload := entry.payload
        headers := entry.headers }

/-- The first message at its position, in the given order of partitions. -/
def firstMessage? (consumer : Consumer) (broker : Broker)
    (positions : List Int) : List Nat → Option InboundMessage
  | [] => none
  | partition :: rest =>
      match positions[partition]?.bind
        (consumer.messageAt broker partition) with
      | some message => some message
      | none => consumer.firstMessage? broker positions rest

/-- All partitions, beginning with the one whose turn it is. -/
def turnOrder (partitions turn : Nat) : List Nat :=
  (List.range partitions).map fun step => (turn + step) % partitions

/-- Look for a message and step over it. -/
def poll (consumer : Consumer) (broker : Broker) :
    Option InboundMessage × Consumer :=
  let positions :=
    consumer.positions.getD (consumer.committedPositions broker)
  let located := { consumer with positions := some positions }
  if broker.hasTopic consumer.topic then
    let looked := { located with turn := consumer.turn + 1 }
    match consumer.firstMessage? broker positions
      (turnOrder broker.partitions consumer.turn) with
    | none => (none, looked)
    | some message =>
        (some message,
          { looked with
            positions :=
              some (positions.set message.partition (message.offset + 1)) })
  else
    (none, located)

/-- One attempt to get the next message: an error, a message or nothing yet. -/
def fetch (consumer : Consumer) (broker : Broker) :
    Except BusError (Option InboundMessage) × Consumer :=
  match broker.outage with
  | some error => (.error error, consumer)
  | none =>
      let (message?, consumer) := consumer.poll broker
      (.ok message?, consumer)

end Consumer

end Clearing
