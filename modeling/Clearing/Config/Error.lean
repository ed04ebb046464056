import Clearing.Text.Quoted
/-!
Errors of the configuration.
-/

namespace Clearing

inductive ConfigError where
  | unreadable (path reason : String)
  | unparsable (path : String)
  | badValue (key reason : String)
  | missingVariable (name : String)
  | badVariable (name value reason : String)
deriving DecidableEq

def ConfigError.message : ConfigError → String
  | .unreadable path reason =>
      "failed to read config file " ++ path ++ ": " ++ reason
  | .unparsable path => "failed to parse config file " ++ path
  | .badValue key reason => "invalid config value " ++ key ++ ": " ++ reason
  | .missingVariable name => "missing required environment variable " ++ name
  | .badVariable name value reason =>
      "invalid value for " ++ name ++ ": " ++ Text.quoted value ++ " (" ++
        reason ++ ")"

end Clearing
