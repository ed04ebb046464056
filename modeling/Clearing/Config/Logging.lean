/-!
Names in the settings of the log.
-/

namespace Clearing.Logging

/-- How often a new log file is begun. -/
inductive Rotation where
  | hourly
  | daily
  | never
deriving DecidableEq

/-- Only the exact names of a period stand for one. -/
def Rotation.ofName : String → Rotation
  | "hourly" => .hourly
  | "daily" => .daily
  | _ => .never

def Rotation.name : Rotation → String
  | .hourly => "hourly"
  | .daily => "daily"
  | .never => "never"

/-- What is logged at a level: statements and connections only from warnings on. -/
def directives (level : String) : String :=
  level ++ ",sqlx=warn,hyper=warn"

end Clearing.Logging
