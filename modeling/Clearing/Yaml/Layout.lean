import Clearing.Yaml.BlockScalar
import Clearing.Yaml.Scalar
import Clearing.Yaml.Tag
/-!
The tokens of a text.  Blocks open where something is indented further than
what is around it, and close where the indentation goes back.  A key is known
as such by the colon behind it, which has to follow on the same line and within
1024 characters; its token is then put in front of what has been read since.
-/

namespace Clearing.Yaml

/-- A place at which a key may begin. -/
structure PossibleKey where
  /-- The number of tokens in front of it. -/
  position : Nat
  index : Nat
  line : Nat
  column : Nat
  /-- Nothing but a key can stand there. -/
  isRequired : Bool

/-- What has been read of a text. -/
structure Layout where
  cursor : Cursor
  /-- More than the number of characters of the text. -/
  fuel : Nat
  tokens : Array Token
  /-- For each open block, the first column behind its own; the innermost first. -/
  margins : List Nat
  /-- Where a key may have begun, outside of brackets or in the innermost. -/
  possible : Option PossibleKey
  /-- The same for what is around the innermost brackets. -/
  around : List (Option PossibleKey)
  /-- A key may begin at the cursor. -/
  keyAllowed : Bool

namespace Layout

def start (characters : List Char) : Layout where
  cursor := .start characters
  fuel := characters.length + 1
  tokens := #[]
  margins := []
  possible := none
  around := []
  keyAllowed := true

/-- The cursor is between brackets. -/
def inFlow (layout : Layout) : Bool := !layout.around.isEmpty

/-- The first column that belongs to the innermost block, zero outside of all. -/
def margin (layout : Layout) : Nat := layout.margins.headD 0

def push (layout : Layout) (token : Token) (next : Cursor) : Layout :=
  { layout with
    cursor := next
    tokens := layout.tokens.push token }

/-- Step over blanks, comments and empty lines, behind which keys are allowed. -/
def skip : (fuel : Nat) → Layout → Layout
  | 0, layout => layout
  | fuel + 1, layout =>
      let cursor := layout.cursor
      match cursor.peek? with
      | none => layout
      | some character =>
          if (character = '\ufeff' ∧ cursor.column = 0) ∨ character = ' ' ∨
              (character = '\t' ∧ (layout.inFlow ∨ !layout.keyAllowed)) then
            skip fuel { layout with cursor := cursor.step }
          else if character = '#' then
            skip fuel
              { layout with
                cursor := (cursor.span fun other => !isBreak other).2 }
          else if isBreak character then
            skip fuel
              { layout with
                cursor := cursor.stepLine
                keyAllowed := (layout.keyAllowed || !layout.inFlow) }
          else
            layout

/-- A possible key that no colon can follow any more. -/
def isOver (cursor : Cursor) (key : PossibleKey) : Bool :=
  decide (key.line < cursor.line) || decide (key.index + 1024 < cursor.index)

/-- Give up a possible key; where a key is required, that is an error. -/
def giveUp : Option PossibleKey → Option (Option PossibleKey)
  | some key => if key.isRequired then none else some none
  | none => some none

/-- Give up the possible keys that are over. -/
def expire (layout : Layout) : Option Layout := do
  let check (possible : Option PossibleKey) : Option (Option PossibleKey) :=
    if possible.any (isOver layout.cursor) then giveUp possible else some possible
  return { layout with
    possible := ← check layout.possible
    around := ← layout.around.mapM check }

/-- Give up the possible key of the innermost brackets. -/
def dropKey (layout : Layout) : Option Layout := do
  return { layout with possible := ← giveUp layout.possible }

/-- Remember that a key may begin at the cursor, if it may. -/
def noteKey (layout : Layout) : Option Layout :=
  if layout.keyAllowed then do
    let layout ← layout.dropKey
    let cursor := layout.cursor
    return { layout with
      possible := some
        { position := layout.tokens.size
          index := cursor.index
          line := cursor.line
          column := cursor.column
          isRequired := (!layout.inFlow && layout.margin == cursor.column + 1) } }
  else
    some layout

/-- Close the blocks whose column is behind the given margin. -/
def closeBlocks (layout : Layout) (margin : Nat) : Layout :=
  if layout.inFlow then
    layout
  else
    let kept := layout.margins.dropWhile (margin < ·)
    let closed := layout.margins.length - kept.length
    { layout with
      margins := kept
      tokens := layout.tokens ++ Array.replicate closed .closeBlock }

/-- Open a block in a column behind a number of tokens, unless it is open. -/
def openBlock (layout : Layout) (token : Token) (column position : Nat) :
    Layout :=
  if !layout.inFlow && decide (layout.margin ≤ column) then
    { layout with
      margins := (column + 1) :: layout.margins
      tokens := layout.tokens.insertIdxIfInBounds position token }
  else
    layout

def closeAll (layout : Layout) : Option Layout := do
  let layout ← (layout.closeBlocks 0).dropKey
  return { layout with keyAllowed := false }

def openFlow (layout : Layout) (token : Token) : Option Layout := do
  let layout ← layout.noteKey
  return { layout with
    possible := none
    around := layout.possible :: layout.around
    keyAllowed := true }.push token layout.cursor.step

def closeFlow (layout : Layout) (token : Token) : Option Layout := do
  let layout ← layout.dropKey
  let (possible, around) :=
    match layout.around with
    | [] => (none, [])
    | outer :: rest => (outer, rest)
  return { layout with
    possible := possible
    around := around
    keyAllowed := false }.push token layout.cursor.step

def comma (layout : Layout) : Option Layout := do
  let layout ← layout.dropKey
  return { layout with keyAllowed := true }.push .comma layout.cursor.step

/-- Open a block at the cursor, where a key would have to be allowed. -/
def openHere (layout : Layout) (token : Token) : Option Layout :=
  if layout.inFlow then
    some layout
  else if layout.keyAllowed then
    some (layout.openBlock token layout.cursor.column layout.tokens.size)
  else
    none

def dash (layout : Layout) : Option Layout := do
  let layout ← layout.openHere .openItems
  let layout ← layout.dropKey
  return { layout with keyAllowed := true }.push .dash layout.cursor.step

def markedKey (layout : Layout) : Option Layout := do
  let layout ← layout.openHere .openEntries
  let layout ← layout.dropKey
  return { layout with keyAllowed := !layout.inFlow }.push .key
    layout.cursor.step

def colon (layout : Layout) : Option Layout :=
  match layout.possible with
  | some key =>
      let keyed :=
        { layout with
          tokens := layout.tokens.insertIdxIfInBounds key.position .key
          possible := none
          keyAllowed := false }
      some ((keyed.openBlock .openEntries key.column key.position).push .value
        layout.cursor.step)
  | none => do
      let layout ← layout.openHere .openEntries
      return { layout with keyAllowed := !layout.inFlow }.push .value
        layout.cursor.step

/-- Read something with which a key may begin. -/
def keyed (layout : Layout) (read : Option (Token × Cursor)) : Option Layout := do
  let layout ← layout.noteKey
  let (token, next) ← read
  return { layout with keyAllowed := false }.push token next

def plain (layout : Layout) : Option Layout := do
  let (token, broken, next) ←
    plainToken layout.inFlow layout.margin layout.fuel layout.cursor
  let layout ← layout.keyed (some (token, next))
  return { layout with keyAllowed := broken }

def block (layout : Layout) (isLiteral : Bool) : Option Layout := do
  let layout ← layout.dropKey
  let (token, next) ←
    blockToken isLiteral layout.margin layout.fuel layout.cursor
  return { layout with keyAllowed := true }.push token next

/-- Read a marker of the start or the end of a document. -/
def boundary (layout : Layout) (token : Token) : Option Layout := do
  return (← layout.closeAll).push token (layout.cursor.stepBy 3)

def directive (layout : Layout) : Option Layout := do
  let layout ← layout.closeAll
  let (token, next) ← directiveToken layout.cursor
  return layout.push token next

/-- A character that begins no plain scalar, or only before some others. -/
def isIndicator (character : Char) : Bool :=
  ['-', '?', ':', ',', '[', ']', '\x7b', '\x7d', '#', '&', '*', '!', '|', '>',
    '\x27', '"', '%', '@', '\x60'].contains character

/-- A plain scalar begins at the cursor. -/
def startsPlain (layout : Layout) : Bool :=
  let cursor := layout.cursor
  (!endsWord cursor.peek? && !cursor.peek?.any isIndicator) ||
    (cursor.startsWith '-' && !cursor.second?.any isGap) ||
    (!layout.inFlow && (cursor.startsWith '?' || cursor.startsWith ':') &&
      !endsWord cursor.second?)

/-- Read the token that begins with a character. -/
def token (layout : Layout) (character : Char) : Option Layout :=
  let cursor := layout.cursor
  let ends := endsWord cursor.second?
  if cursor.column = 0 ∧ character = '%' then
    layout.directive
  else if cursor.isMarker '-' then
    layout.boundary .beginDocument
  else if cursor.isMarker '.' then
    layout.boundary .endDocument
  else if character = '[' then
    layout.openFlow .openBracket
  else if character = '\x7b' then
    layout.openFlow .openBrace
  else if character = ']' then
    layout.closeFlow .closeBracket
  else if character = '\x7d' then
    layout.closeFlow .closeBrace
  else if character = ',' then
    layout.comma
  else if character = '-' ∧ ends then
    layout.dash
  else if character = '?' ∧ (layout.inFlow ∨ ends) then
    layout.markedKey
  else if character = ':' ∧ (layout.inFlow ∨ ends) then
    layout.colon
  else if character = '*' then
    layout.keyed ((scanAnchor cursor).map fun (name, next) =>
      (.reference name, next))
  else if character = '&' then
    layout.keyed ((scanAnchor cursor).map fun (name, next) =>
      (.anchor name, next))
  else if character = '!' then
    layout.keyed (tagToken layout.inFlow cursor)
  else if character = '|' ∧ !layout.inFlow then
    layout.block true
  else if character = '>' ∧ !layout.inFlow then
    layout.block false
  else if character = '\x27' ∨ character = '"' then
    layout.keyed (quotedToken character layout.fuel cursor)
  else if layout.startsPlain then
    layout.plain
  else
    none

def finish (layout : Layout) : Option (List Token) := do
  let layout ← layout.closeAll
  return (layout.tokens.push .endText).toList

def read (layout : Layout) : (fuel : Nat) → Option (List Token)
  | 0 => none
  | fuel + 1 => do
      let layout ← (layout.skip layout.fuel).expire
      let layout := layout.closeBlocks (layout.cursor.column + 1)
      match layout.cursor.peek? with
      | none => layout.finish
      | some character => read (← layout.token character) fuel

end Layout

/-- A character that may stand in a text. -/
def isAllowed (character : Char) : Bool :=
  let point := character.toNat
  ['\t', '\n', '\r', '\x85'].contains character ||
    (decide (0x20 ≤ point) && decide (point ≤ 0x7E)) ||
    (decide (0xA0 ≤ point) && decide (point ≤ 0xFFFD)) ||
    decide (0x10000 ≤ point)

/-- The tokens of a text, if it is well formed. -/
def tokens? (text : String) : Option (List Token) :=
  let characters := text.toList
  if characters.all isAllowed then
    let layout := Layout.start characters
    layout.read layout.fuel
  else
    none

end Clearing.Yaml
