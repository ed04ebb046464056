import Clearing.CommandLine
import Clearing.Config.Files
/-!
The program.  It reads the variables of its process and the two files that a
start may look at, and leaves every decision to `CommandLine.start`.
-/

namespace Clearing

/-- The content of a file, or why it cannot be read. -/
def readContent (path : String) : IO (Except String String) := do
  try
    return .ok (← IO.FS.readFile path)
  catch
    | .noFileOrDirectory .. => return .error FileError.notFound.message
    | error => return .error (toString error)

/-- The variables of the process, as the system lists them. -/
def processVariables : IO DotEnv.Variables := do
  match ← readContent "/proc/self/environ" with
  | .error _ => return .empty
  | .ok content =>
      return DotEnv.ofListing content

end Clearing

open Clearing in
def main (arguments : List String) : IO UInt32 := do
  let settingsPath := Settings.path (CommandLine.environmentName arguments)
  let variablesFile ← readContent CommandLine.variablesPath
  let settingsFile ← readContent settingsPath
  let read := fun path =>
    if path = CommandLine.variablesPath then
      variablesFile
    else if path = settingsPath then
      settingsFile
    else
      .error FileError.notFound.message
  let outcome := CommandLine.start arguments read (← processVariables)
  for line in outcome.lines do
    IO.eprintln line
  return UInt32.ofNat outcome.status
