import Clearing.Text.Ascii
import Clearing.Yaml.Cursor
import Clearing.Yaml.Token
/-!
Scalars that are written as a block of lines.  A literal scalar keeps its line
breaks; a folded one turns a break between two lines of text into a blank.
-/

namespace Clearing.Yaml

open Text

/-- What becomes of the breaks at the end of a block. -/
inductive Chomping where
  /-- All of them go. -/
  | strip
  /-- The first one stays. -/
  | clip
  /-- All of them stay. -/
  | keep
deriving DecidableEq

/-- What the indicators of a block say. -/
structure BlockHeader where
  chomping : Chomping
  /-- The number of columns that the lines are indented by, if it is given. -/
  increment : Option Nat

/-- The chomping that a sign asks for. -/
def scanChomping (cursor : Cursor) : Option Chomping × Cursor :=
  if cursor.startsWith '+' then
    (some .keep, cursor.step)
  else if cursor.startsWith '-' then
    (some .strip, cursor.step)
  else
    (none, cursor)

/-- The increment that a digit gives; zero is refused. -/
def scanIncrement (cursor : Cursor) : Option (Option Nat × Cursor) :=
  match cursor.peek? with
  | none => some (none, cursor)
  | some digit =>
      if digit = '0' then
        none
      else if isDigit digit then
        some (some (digit.toNat - '0'.toNat), cursor.step)
      else
        some (none, cursor)

/-- Read the indicators, which come in either order. -/
def scanHeader (cursor : Cursor) : Option (BlockHeader × Cursor) := do
  let (before, cursor) := scanChomping cursor
  let (increment, cursor) ← scanIncrement cursor
  let (behind, cursor) :=
    if before.isNone && increment.isSome then
      scanChomping cursor
    else
      (none, cursor)
  return (⟨(before <|> behind).getD .clip, increment⟩, ← cursor.finishLine)

/--
Read empty lines and indentation.  Given are the columns of indentation, if they
are known, the breaks so far, the last one first, and the most blanks that a
line began with.
-/
def scanIndentation (indent : Option Nat) : (fuel : Nat) → List Char →
    (widest : Nat) → Cursor → Option (List Char × Nat × Cursor)
  | 0, _, _, _ => none
  | fuel + 1, breaks, widest, cursor =>
      let before :=
        match indent with
        | none => cursor.rest
        | some indent => cursor.rest.take (indent - cursor.column)
      let next := cursor.stepBy (before.takeWhile (· == ' ')).length
      let widest := max widest next.column
      if next.startsWith '\t' && indent.all (decide <| next.column < ·) then
        none
      else if next.peek?.any isBreak then
        scanIndentation indent fuel (next.breakText ++ breaks) widest
          next.stepLine
      else
        some (breaks, widest, next)

/-- What has been read of a block, the last character first. -/
structure BlockReading where
  text : List Char
  /-- What the break behind the last line stands for. -/
  pending : List Char
  /-- The breaks of the empty lines behind it, the last one first. -/
  empty : List Char
  /-- The last line begins with a blank. -/
  indented : Bool

def BlockReading.line (reading : BlockReading) (isLiteral : Bool)
    (line : List Char) (ending : List Char) : BlockReading :=
  let indented := line.head?.any isGap
  let joint :=
    if !isLiteral && reading.pending == ['\n'] && !reading.indented &&
        !indented then
      if reading.empty = [] then [' '] else []
    else
      reading.pending
  { text := line.reverse ++ reading.empty ++ joint ++ reading.text
    pending := ending
    empty := []
    indented := indented }

/-- Read the lines of a block in a column. -/
def scanLines (isLiteral : Bool) (indent : Nat) : (fuel : Nat) →
    BlockReading → Cursor → Option (BlockReading × Cursor)
  | 0, reading, cursor => some (reading, cursor)
  | fuel + 1, reading, cursor =>
      if cursor.column = indent ∧ cursor.rest ≠ [] then do
        let (line, next) := cursor.span fun character => !isBreak character
        let reading := reading.line isLiteral line next.breakText
        let next := if next.rest = [] then next else next.stepLine
        let (empty, _, next) ←
          scanIndentation (some indent) (fuel + 1) [] 0 next
        scanLines isLiteral indent fuel { reading with empty := empty } next
      else
        some (reading, cursor)

/-- What a block stands for, the last character first. -/
def BlockReading.chomp (reading : BlockReading) : Chomping → List Char
  | .strip => reading.text
  | .clip => reading.pending ++ reading.text
  | .keep => reading.empty ++ reading.pending ++ reading.text

/--
The token of a scalar that is written as a block, from its indicator on.  Its
lines are indented at least up to the margin.  The fuel is more than the number
of characters that are left.
-/
def blockToken (isLiteral : Bool) (margin fuel : Nat) (cursor : Cursor) :
    Option (Token × Cursor) := do
  let (header, next) ← scanHeader cursor.step
  let given := header.increment.map (margin - 1 + ·)
  let (empty, widest, next) ← scanIndentation given fuel [] 0 next
  let indent := given.getD (max widest (max margin 1))
  let (reading, next) ←
    scanLines isLiteral indent fuel
      { text := []
        pending := []
        empty := empty
        indented := false } next
  let style : ScalarStyle := if isLiteral then .literal else .folded
  return (.scalar style
    (String.ofList (reading.chomp header.chomping).reverse), next)

end Clearing.Yaml
