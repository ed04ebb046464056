import Clearing.Config.DotEnv
import Clearing.Config.Environment
import Clearing.Config.LogFilter
import Clearing.Config.Logging
import Clearing.Config.Settings
/-!
The command line.  A service is started for an environment and in a role; it
reads its variables and its settings, opens its log, and then connects to its
database.
-/

namespace Clearing

/-- What a process does: take payments in, settle them, or both. -/
inductive Role where
  | payment
  | ledger
  | all
deriving DecidableEq

def Role.ofName? : String → Option Role
  | "payment" => some .payment
  | "ledger" => some .ledger
  | "all" => some .all
  | _ => none

/-- Why a service could not be started. -/
inductive StartError where
  | unknownRole (name : String)
  | config (error : ConfigError)
  /-- The database of the service cannot be reached. -/
  | database
deriving DecidableEq

namespace StartError

def message : StartError → String
  | .unknownRole name =>
      "unknown role '" ++ name ++ "' (payment|ledger|all)"
  | .config error => error.message
  | .database => "connecting to DATABASE_URL"

def exitStatus : StartError → Nat
  | .unknownRole _ => 2
  | .config _ | .database => 1

def report (error : StartError) : String := "FATAL: " ++ error.message

end StartError

/-- Everything that a service needs to know before it connects. -/
structure Startup where
  role : Role
  settings : Settings
  environment : Environment
  /-- What is kept in the log. -/
  filter : String

namespace CommandLine

def argument? (names : List String) : List String → Option String
  | name :: value :: rest =>
      if names.contains name then
        some value
      else
        argument? names (value :: rest)
  | _ => none

def environmentName (arguments : List String) : String :=
  (argument? ["--env", "-e"] arguments).getD "dev"

def role (arguments : List String) : Except StartError Role :=
  match argument? ["--role"] arguments with
  | none => .ok .all
  | some name =>
      match Role.ofName? name with
      | some role => .ok role
      | none => .error (.unknownRole name)

/-- The file that adds variables to those of the process. -/
def variablesPath : String := ".env"

/-- Prepare a service with the given way to read files and variables. -/
def prepare (arguments : List String)
    (read : String → Except String String) (inherited : DotEnv.Variables) :
    Except StartError Startup := do
  let known :=
    match read variablesPath with
    | .ok content => DotEnv.load inherited content
    | .error _ => inherited
  let role ← role arguments
  let settings ←
    (Settings.load read (environmentName arguments)).mapError .config
  let environment ←
    (Environment.ofLookup known.get?).mapError .config
  let filter :=
    LogFilter.choose (known.get? LogFilter.variableName)
      (Logging.directives settings.logLevel)
  return { role, settings, environment, filter }

/-- What a process reports before it ends, and its exit status. -/
structure Outcome where
  lines : List String
  status : Nat
deriving DecidableEq

def Outcome.ofError (error : StartError) (lines : List String) : Outcome where
  lines := lines ++ [error.report]
  status := error.exitStatus

/-- Start a service.  No database is within reach, so it ends with an error. -/
def start (arguments : List String) (read : String → Except String String)
    (inherited : DotEnv.Variables) : Outcome :=
  match prepare arguments read inherited with
  | .error error => .ofError error []
  | .ok startup =>
      .ofError .database (LogFilter.warnings startup.filter)

end CommandLine

end Clearing
