/-!
A place in a text.  Lines end at any of six breaks, and a carriage return with
a line feed behind it is one break.
-/

namespace Clearing.Yaml

/-- A place in a text: what follows, and how much came before. -/
structure Cursor where
  rest : List Char
  /-- The number of characters before the place. -/
  index : Nat
  line : Nat
  column : Nat

/-- A blank within a line. -/
def isGap (character : Char) : Bool :=
  character == ' ' || character == '\t'

/-- A character that ends a line. -/
def isBreak (character : Char) : Bool :=
  ['\n', '\r', '\x85', '\u2028', '\u2029'].contains character

/-- The end of a line, or of the text. -/
def endsLine (next : Option Char) : Bool :=
  next.all isBreak

/-- A blank, the end of a line, or the end of the text. -/
def endsWord (next : Option Char) : Bool :=
  next.all fun character => isGap character || isBreak character

/-- A character of a name: a letter or digit of ASCII, or one of two signs. -/
def isNameCharacter (character : Char) : Bool :=
  character.isAlphanum || character == '_' || character == '-'

namespace Cursor

def start (characters : List Char) : Cursor where
  rest := characters
  index := 0
  line := 0
  column := 0

def peek? (cursor : Cursor) : Option Char := cursor.rest.head?

def second? (cursor : Cursor) : Option Char := cursor.rest.tail.head?

def startsWith (cursor : Cursor) (character : Char) : Bool :=
  cursor.peek? == some character

/-- Step over one character within a line. -/
def step (cursor : Cursor) : Cursor where
  rest := cursor.rest.tail
  index := cursor.index + 1
  line := cursor.line
  column := cursor.column + 1

/-- Step over characters within a line. -/
def stepBy : (count : Nat) → Cursor → Cursor
  | 0, cursor => cursor
  | count + 1, cursor => stepBy count cursor.step

def stepLine (cursor : Cursor) : Cursor :=
  let width := if cursor.rest.take 2 = ['\r', '\n'] then 2 else 1
  { rest := cursor.rest.drop width
    index := cursor.index + width
    line := cursor.line + 1
    column := 0 }

/--
What the end of a line stands for in a scalar.  The two separators of Unicode
stand for themselves and every other break for a line feed.
-/
def breakText (cursor : Cursor) : List Char :=
  match cursor.peek? with
  | none => []
  | some character =>
      if character = '\u2028' ∨ character = '\u2029' then
        [character]
      else if isBreak character then
        ['\n']
      else
        []

/-- The characters in front that satisfy a condition, and the place behind. -/
def span (cursor : Cursor) (condition : Char → Bool) : List Char × Cursor :=
  let taken := cursor.rest.takeWhile condition
  (taken, cursor.stepBy taken.length)

def skipGaps (cursor : Cursor) : Cursor := (cursor.span isGap).2

/-- Step over blanks and a comment up to the end of the line, if it ends then. -/
def finishLine (cursor : Cursor) : Option Cursor :=
  let next := cursor.skipGaps
  let next :=
    if next.startsWith '#' then
      (next.span fun character => !isBreak character).2
    else
      next
  if next.rest = [] then
    some next
  else if endsLine next.peek? then
    some next.stepLine
  else
    none

/-- A marker of three equal characters at the start of a line. -/
def isMarker (cursor : Cursor) (mark : Char) : Bool :=
  cursor.column == 0 && cursor.rest.take 3 == [mark, mark, mark] &&
    endsWord (cursor.rest.drop 3).head?

/-- The line that begins or ends a document. -/
def isBoundary (cursor : Cursor) : Bool :=
  cursor.isMarker '-' || cursor.isMarker '.'

end Cursor

end Clearing.Yaml
