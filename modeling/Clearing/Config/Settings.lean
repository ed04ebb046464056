import Clearing.Config.Error
import Clearing.Text.Ascii
import Clearing.Yaml.Document
/-!
The settings of a service: logging, and the knobs of its workers.  They are
read from a file for each environment.  A section that the file leaves out has
its default settings; no knob may be zero.
-/

namespace Clearing

structure GatewaySettings where
  rateLimitPerMinute : Nat
  /-- Seconds between sweeps of elapsed rate-limit windows. -/
  rateLimitSweep : Nat
deriving DecidableEq

structure OutboxSettings where
  /-- Milliseconds between passes of the relay. -/
  pollInterval : Nat
  batchSize : Nat
deriving DecidableEq

structure SettlementSettings where
  /-- Milliseconds between looks at an event log with nothing new in it. -/
  pollInterval : Nat
  /-- Milliseconds of pause after a fetch that failed. -/
  errorBackoff : Nat
deriving DecidableEq

structure CacheSettings where
  /-- Seconds between purges of expired entries. -/
  sweep : Nat
deriving DecidableEq

structure Settings where
  logLevel : String
  logDirectory : String
  logFile : String
  logsJson : Bool
  rotation : String
  gateway : GatewaySettings
  outbox : OutboxSettings
  settlement : SettlementSettings
  cache : CacheSettings
deriving DecidableEq

def GatewaySettings.default : GatewaySettings where
  rateLimitPerMinute := 100
  rateLimitSweep := 60

def OutboxSettings.default : OutboxSettings where
  pollInterval := 500
  batchSize := 100

def SettlementSettings.default : SettlementSettings where
  pollInterval := 200
  errorBackoff := 1000

def CacheSettings.default : CacheSettings where
  sweep := 300

def Settings.default : Settings where
  logLevel := "info"
  logDirectory := "./logs"
  logFile := "paysettle.log"
  logsJson := false
  rotation := "daily"
  gateway := .default
  outbox := .default
  settlement := .default
  cache := .default

namespace Settings

open Text Yaml

/-- The digits of a number behind a mark for their base. -/
def basedNumber? (base : Nat) (digits : List Char) : Option Nat :=
  if digits ≠ [] ∧
      digits.all (fun digit => isHex digit && decide (hexValue digit < base)) then
    some (digits.foldl (fun value digit => base * value + hexValue digit) 0)
  else
    none

/--
A natural number as documents write it: decimal without zeros in front, or
behind `0x`, `0o` or `0b` to the base sixteen, eight or two.
-/
def number? (characters : List Char) : Option Nat :=
  let unsigned :=
    match characters with
    | '+' :: rest => rest
    | _ => characters
  match unsigned with
  | '0' :: 'x' :: digits => basedNumber? 16 digits
  | '0' :: 'o' :: digits => basedNumber? 8 digits
  | '0' :: 'b' :: digits => basedNumber? 2 digits
  | '0' :: _ :: _ => none
  | digits => basedNumber? 10 digits

/-- A scalar that is a natural number of at most so many bits. -/
def naturalAt? (bits : Nat) (document : Document) (place : Nat) : Option Nat := do
  let text ← document.plain? "tag:yaml.org,2002:int" place
  (number? text.toList).filter fun value => value < 2 ^ bits

def flagAt? (document : Document) (place : Nat) : Option Bool := do
  let text ← document.plain? "tag:yaml.org,2002:bool" place
  if ["true", "True", "TRUE"].contains text then
    some true
  else if ["false", "False", "FALSE"].contains text then
    some false
  else
    none

/-- The places of the values of a mapping, under the names that are its keys. -/
def fields? (document : Document) (place : Nat) :
    Option (List (String × Nat)) := do
  (← document.entries? place).mapM fun entry => do
    return (← document.text? entry.1, entry.2)

/-- The only entry of a name, if there is one; two of a name are refused. -/
def entry? (name : String) (entries : List (String × Nat)) :
    Option (Option Nat) :=
  match entries.filter fun entry => entry.1 = name with
  | [] => some none
  | [entry] => some (some entry.2)
  | _ => none

/-- The value of an entry that has to be there. -/
def required? {Value : Type} (read : Nat → Option Value) (name : String)
    (entries : List (String × Nat)) : Option Value := do
  let found ← entry? name entries
  read (← found)

/-- The value of an entry that may be left out. -/
def optional? {Value : Type} (read : Nat → Option Value) (default : Value)
    (name : String) (entries : List (String × Nat)) : Option Value := do
  match ← entry? name entries with
  | some place => read place
  | none => some default

def gatewayAt? (document : Document) (place : Nat) : Option GatewaySettings := do
  let entries ← fields? document place
  let rateLimitPerMinute ←
    required? (naturalAt? 32 document) "rate_limit_per_minute" entries
  let rateLimitSweep ←
    required? (naturalAt? 64 document) "rate_limit_sweep_secs" entries
  return { rateLimitPerMinute, rateLimitSweep }

def outboxAt? (document : Document) (place : Nat) : Option OutboxSettings := do
  let entries ← fields? document place
  let pollInterval ←
    required? (naturalAt? 64 document) "poll_interval_ms" entries
  let batchSize ← required? (naturalAt? 64 document) "batch_size" entries
  return { pollInterval, batchSize }

def settlementAt? (document : Document) (place : Nat) :
    Option SettlementSettings := do
  let entries ← fields? document place
  let pollInterval ←
    required? (naturalAt? 64 document) "poll_interval_ms" entries
  let errorBackoff ←
    required? (naturalAt? 64 document) "error_backoff_ms" entries
  return { pollInterval, errorBackoff }

def cacheAt? (document : Document) (place : Nat) : Option CacheSettings := do
  let entries ← fields? document place
  let sweep ← required? (naturalAt? 64 document) "sweep_secs" entries
  return { sweep }

def ofDocument? (document : Document) : Option Settings := do
  let entries ← fields? document 0
  let text := document.text?
  let logLevel ← required? text "log_level" entries
  let logDirectory ← required? text "log_dir" entries
  let logFile ← required? text "log_file" entries
  let logsJson ← required? (flagAt? document) "use_json" entries
  let rotation ← required? text "rotation" entries
  let gateway ← optional? (gatewayAt? document) .default "gateway" entries
  let outbox ← optional? (outboxAt? document) .default "outbox" entries
  let settlement ←
    optional? (settlementAt? document) .default "settlement" entries
  let cache ← optional? (cacheAt? document) .default "cache" entries
  some
    { logLevel, logDirectory, logFile, logsJson, rotation, gateway, outbox,
      settlement, cache }

/-- The knobs that must not be zero, in the order of their checks. -/
def knobs (settings : Settings) : List (String × Nat) :=
  [("gateway.rate_limit_per_minute", settings.gateway.rateLimitPerMinute),
    ("gateway.rate_limit_sweep_secs", settings.gateway.rateLimitSweep),
    ("outbox.poll_interval_ms", settings.outbox.pollInterval),
    ("outbox.batch_size", settings.outbox.batchSize),
    ("settlement.poll_interval_ms", settings.settlement.pollInterval),
    ("settlement.error_backoff_ms", settings.settlement.errorBackoff),
    ("cache.sweep_secs", settings.cache.sweep)]

/-- Refuse settings with which a worker would stall or spin. -/
def check (settings : Settings) : Except ConfigError Unit :=
  match settings.knobs.find? fun knob => knob.2 = 0 with
  | some knob => .error (.badValue knob.1 "must be greater than 0")
  | none => .ok ()

def path (environment : String) : String :=
  "config/" ++ environment ++ ".yaml"

def load (read : String → Except String String) (environment : String) :
    Except ConfigError Settings := do
  let path := path environment
  let content ←
    match read path with
    | .ok content => pure content
    | .error reason => throw (.unreadable path reason)
  match (Document.parse content).bind ofDocument? with
  | some settings =>
      settings.check
      return settings
  | none => throw (.unparsable path)

end Settings

end Clearing
