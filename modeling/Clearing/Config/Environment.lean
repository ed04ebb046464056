import Clearing.Config.Error
import Clearing.Net.Address
import Clearing.Payment.Intake
/-!
What a service takes from the variables of its process: the endpoints that it
connects to, and their secrets.  A variable that holds nothing but white space
counts as unset.
-/

namespace Clearing

structure Environment where
  databaseUrl : String
  /-- The payments database, where the ledger reports what it settled. -/
  paymentsDatabaseUrl : Option String
  brokers : List String
  topic : String
  group : String
  partitions : Nat
  cacheUrl : String
  cachePassword : Option String
  listenAddress : SocketAddress
  dispatch : Dispatch
  rateLimitPerMinute : Option Nat
deriving DecidableEq

namespace Environment

def defaultPartitions : Nat := 8

def defaultGroup : String := "ledger-settlement"

/-- A variable that holds more than white space. -/
def given? (lookup : String → Option String) (name : String) :
    Option String :=
  (lookup name).filter fun value => !Text.isBlankText value

def required (lookup : String → Option String) (name : String) :
    Except ConfigError String :=
  match given? lookup name with
  | some value => .ok value
  | none => .error (.missingVariable name)

/-- The brokers of a list with commas between them. -/
def readBrokers (value : String) : Except ConfigError (List String) :=
  let listed :=
    (Text.pieces ',' value.toList).map fun piece =>
      String.ofList (Text.trimmed piece)
  match listed.filter (· ≠ "") with
  | [] => .error (.badVariable "EVENT_BUS_BROKERS" value "no broker listed")
  | brokers => .ok brokers

def readAddress (value : String) : Except ConfigError SocketAddress :=
  match SocketAddress.parse value with
  | some address => .ok address
  | none =>
      .error (.badVariable "LISTEN_ADDR" value "invalid socket address syntax")

/-- A number above zero and below a bound, if the variable is set. -/
def readPositive (lookup : String → Option String) (name : String)
    (bound : Nat) : Except ConfigError (Option Nat) :=
  match given? lookup name with
  | none => .ok none
  | some value =>
      match Text.natural? (Text.trimmed value.toList) with
      | some number =>
          if 0 < number ∧ number < bound then
            .ok (some number)
          else
            .error (.badVariable name value "must be a positive integer")
      | none => .error (.badVariable name value "must be a positive integer")

/-- The way of dispatch, whose name may be in either case. -/
def readDispatch (lookup : String → Option String) :
    Except ConfigError Dispatch :=
  match given? lookup "DISPATCH_MODE" with
  | none => .ok .outbox
  | some value =>
      match Dispatch.ofName? (Text.lowerText (Text.trim value)) with
      | some dispatch => .ok dispatch
      | none =>
          .error
            (.badVariable "DISPATCH_MODE" value "expected outbox or direct")

/-- Read the environment; what is missing is reported before what is wrong. -/
def ofLookup (lookup : String → Option String) :
    Except ConfigError Environment := do
  let databaseUrl ← required lookup "DATABASE_URL"
  let brokerList ← required lookup "EVENT_BUS_BROKERS"
  let topic ← required lookup "EVENT_BUS_TOPIC"
  let cacheUrl ← required lookup "CACHE_URL"
  let address ← required lookup "LISTEN_ADDR"
  let brokers ← readBrokers brokerList
  let listenAddress ← readAddress address
  let partitions? ← readPositive lookup "EVENT_BUS_PARTITIONS" (2 ^ 31)
  let dispatch ← readDispatch lookup
  let rateLimitPerMinute ← readPositive lookup "RATE_LIMIT_PER_MINUTE" (2 ^ 32)
  return {
    databaseUrl, brokers, topic, cacheUrl, listenAddress, dispatch,
    rateLimitPerMinute
    paymentsDatabaseUrl := given? lookup "PAYMENTS_DATABASE_URL"
    group := (given? lookup "EVENT_BUS_GROUP").getD defaultGroup
    partitions := partitions?.getD defaultPartitions
    cachePassword := given? lookup "CACHE_PASSWORD" }

end Environment

end Clearing
