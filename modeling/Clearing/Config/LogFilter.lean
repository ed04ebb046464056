import Clearing.Text.Alphanumeric
import Clearing.Text.Ascii
import Clearing.Text.Blank
import Clearing.Text.Split
/-!
Filters of the log.  A filter is a list of directives with commas between them.
A directive names a level, or the target of an entry and behind an equals sign
the level from which on its entries are kept; the target may name a span in
brackets, and the fields of the span in braces.  A directive that is not
understood is reported and left out.
-/

namespace Clearing.LogFilter

open Text

/-- Why a directive is not understood. -/
inductive Fault where
  | malformed
  | unknownLevel
deriving DecidableEq

def Fault.message : Fault → String
  | .malformed => "invalid filter directive"
  | .unknownLevel =>
      "error parsing level filter: expected one of \"off\", \"error\", " ++
        "\"warn\", \"info\", \"debug\", \"trace\", or a number 0-5"

/-- The part of a directive that is being read. -/
inductive Part where
  | start
  /-- A level, or the target that a level may follow. -/
  | name
  | span
  | field (begun : Bool)
  | fields
  /-- Only a level may follow. -/
  | closed
deriving DecidableEq

/-- A character that a level or a target begins with. -/
def beginsName (character : Char) : Bool :=
  isAlphanumeric character || ['-', ':', '_'].contains character

/-- What a character leads to, if it may stand there. -/
def Part.next? : Part → Char → Option Part
  | .start, '[' | .name, '[' => some .span
  | .start, character => if beginsName character then some .name else none
  | .name, _ => some .name
  | .span, ']' | .fields, ']' => some .closed
  | .span, '\x7b' => some (.field false)
  | .span, _ => some .span
  | .field true, '\x7d' => some .fields
  | .field false, '\x7d' => none
  | .field _, _ => some (.field true)
  | .fields, _ | .closed, _ => none

/-- The place behind the equals sign in front of a level, if there is one. -/
def levelPlace (part : Part) (place : Nat) :
    List Char → Except Fault (Option Nat)
  | [] =>
      if part = .name ∨ part = .closed then
        .ok none
      else
        .error .malformed
  | character :: rest =>
      if (part = .name ∨ part = .closed) ∧ character = '=' then
        .ok (some (place + 1))
      else
        match part.next? character with
        | some part => levelPlace part (place + 1) rest
        | none => .error .malformed

/-- The names of the levels; they may also be numbered from zero. -/
def levels : List String := ["off", "error", "warn", "info", "debug", "trace"]

/-- A level by its name or by its number; no text at all is one too. -/
def isLevel (characters : List Char) : Bool :=
  characters.isEmpty ||
    levels.contains (lowerText (String.ofList characters)) ||
    (natural? characters).any (· < levels.length)

/-- Read a directive and say what is wrong with it, if anything is. -/
def check (directive : List Char) : Except Fault Unit := do
  match ← levelPlace .start 0 (trimmed directive) with
  | none => return
  | some place =>
      if !isLevel (directive.drop place) then
        throw .unknownLevel

/-- What is reported about the directives of a filter. -/
def warnings (filter : String) : List String :=
  (pieces ',' filter.toList).filterMap fun directive =>
    if directive = [] then
      none
    else
      match check directive with
      | .ok () => none
      | .error fault =>
          some ("ignoring `" ++ String.ofList directive ++ "`: " ++
            fault.message)

def isUnderstood (filter : String) : Bool :=
  (warnings filter).isEmpty

def variableName : String := "RUST_LOG"

/-- A filter that is given counts if it is understood, or else the usual one. -/
def choose (given : Option String) (usual : String) : String :=
  (given.filter isUnderstood).getD usual

end Clearing.LogFilter
