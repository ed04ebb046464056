import Clearing.Text.Ascii
import Clearing.Yaml.Cursor
import Clearing.Yaml.Token
/-!
Scalars within lines: plain, in single quotes and in double quotes.  The end of
a line inside a scalar stands for a blank, and empty lines stand for themselves.
-/

namespace Clearing.Yaml

open Text

/-- What separates the words of a scalar. -/
structure Gap where
  /-- The blanks within a line, the last one first. -/
  blanks : List Char
  /-- What the first break stands for. -/
  first : List Char
  /-- What the later breaks stand for, the last one first. -/
  later : List Char
  /-- A line has ended in the gap. -/
  broken : Bool

namespace Gap

def none : Gap where
  blanks := []
  first := []
  later := []
  broken := false

/-- The gap behind a break that was escaped. -/
def escapedBreak : Gap := { none with broken := true }

/--
What a gap stands for, the last character first.  A single line feed turns into
a blank.
-/
def reversed (gap : Gap) : List Char :=
  if !gap.broken then
    gap.blanks
  else if gap.first = ['\n'] then
    if gap.later = [] then [' '] else gap.later
  else
    gap.later ++ gap.first

/--
Read blanks and breaks.  A tab is refused where it would stand for indentation:
behind a break, before the column of the margin.
-/
def scan (margin : Nat) : (fuel : Nat) → Gap → Cursor → Option (Gap × Cursor)
  | 0, gap, cursor => some (gap, cursor)
  | fuel + 1, gap, cursor =>
      match cursor.peek? with
      | Option.none => some (gap, cursor)
      | some character =>
          if isGap character then
            if gap.broken then
              if cursor.column < margin ∧ character = '\t' then
                Option.none
              else
                scan margin fuel gap cursor.step
            else
              scan margin fuel { gap with blanks := (character :: gap.blanks) }
                cursor.step
          else if isBreak character then
            if gap.broken then
              scan margin fuel
                { gap with later := (cursor.breakText ++ gap.later) }
                cursor.stepLine
            else
              scan margin fuel
                { gap with
                  first := cursor.breakText
                  broken := true } cursor.stepLine
          else
            some (gap, cursor)

end Gap

/-- A character that separates values between brackets. -/
def isFlowMark (character : Char) : Bool :=
  [',', '[', ']', '\x7b', '\x7d'].contains character

/--
Read a word of a plain scalar, the last character first.  A colon ends it
before a blank; between brackets, the marks end it as well, and a colon may not
stand before one of them.
-/
def scanWord (inFlow : Bool) : (fuel : Nat) → List Char → Cursor →
    Option (List Char × Cursor)
  | 0, read, cursor => some (read, cursor)
  | fuel + 1, read, cursor =>
      match cursor.peek? with
      | none => some (read, cursor)
      | some character =>
          if endsWord (some character) then
            some (read, cursor)
          else if inFlow && character == ':' &&
              cursor.second?.any (fun next => next == '?' || isFlowMark next) then
            none
          else if (character == ':' && endsWord cursor.second?) ||
              (inFlow && isFlowMark character) then
            some (read, cursor)
          else
            scanWord inFlow fuel (character :: read) cursor.step

/--
Read a plain scalar, the last character first.  A later line belongs to it from
the margin on, or anywhere between brackets.  The last answer tells whether a
line has ended behind the scalar.
-/
def scanPlain (inFlow : Bool) (margin : Nat) :
    (fuel : Nat) → List Char → Gap → Cursor →
      Option (List Char × Bool × Cursor)
  | 0, read, gap, cursor => some (read, gap.broken, cursor)
  | fuel + 1, read, gap, cursor =>
      if cursor.isBoundary || cursor.startsWith '#' then
        some (read, gap.broken, cursor)
      else
        match scanWord inFlow fuel [] cursor with
        | none => none
        | some ([], next) => some (read, gap.broken, next)
        | some (word, next) =>
            let read := word ++ gap.reversed ++ read
            match Gap.scan margin fuel .none next with
            | none => none
            | some (gap, next) =>
                if !inFlow && decide (next.column < margin) then
                  some (read, gap.broken, next)
                else
                  scanPlain inFlow margin fuel read gap next

/-- What an escape of one letter stands for. -/
def escapeMeaning? : Char → Option Char
  | '0' => some '\x00'
  | 'a' => some '\x07'
  | 'b' => some '\x08'
  | 't' | '\t' => some '\t'
  | 'n' => some '\n'
  | 'v' => some '\x0b'
  | 'f' => some '\x0c'
  | 'r' => some '\r'
  | 'e' => some '\x1b'
  | ' ' => some ' '
  | '"' => some '"'
  | '/' => some '/'
  | '\\' => some '\\'
  | 'N' => some '\x85'
  | '_' => some '\xa0'
  | 'L' => some '\u2028'
  | 'P' => some '\u2029'
  | _ => none

/-- The number of hexadecimal digits behind the letter of an escape. -/
def escapeWidth? : Char → Option Nat
  | 'x' => some 2
  | 'u' => some 4
  | 'U' => some 8
  | _ => none

/-- The character that an escape stands for, from behind its backslash on. -/
def scanEscape (cursor : Cursor) : Option (Char × Cursor) := do
  let letter ← cursor.peek?
  match escapeWidth? letter with
  | none => return (← escapeMeaning? letter, cursor.step)
  | some width =>
      let digits := cursor.step.rest.take width
      let number := hexNumber digits
      if digits.length = width ∧ digits.all isHex ∧ number.isValidChar then
        return (Char.ofNat number, cursor.stepBy (width + 1))
      else
        none

/--
Read a word of a quoted scalar, the last character first, up to a blank, a
break or the closing quote.  The gap tells of an escaped break.
-/
def scanQuotedWord (quote : Char) : (fuel : Nat) → List Char → Cursor →
    Option (List Char × Gap × Cursor)
  | 0, read, cursor => some (read, .none, cursor)
  | fuel + 1, read, cursor =>
      match cursor.peek? with
      | none => some (read, .none, cursor)
      | some character =>
          if endsWord (some character) then
            some (read, .none, cursor)
          else if character = quote then
            if quote = '\x27' ∧ cursor.second? = some quote then
              scanQuotedWord quote fuel (quote :: read) cursor.step.step
            else
              some (read, .none, cursor)
          else if quote = '"' ∧ character = '\\' then
            if cursor.second?.any isBreak then
              some (read, .escapedBreak, cursor.step.stepLine)
            else
              match scanEscape cursor.step with
              | none => none
              | some (meant, next) =>
                  scanQuotedWord quote fuel (meant :: read) next
          else
            scanQuotedWord quote fuel (character :: read) cursor.step

/-- Read a quoted scalar behind its first quote, the last character first. -/
def scanQuoted (quote : Char) : (fuel : Nat) → List Char → Cursor →
    Option (List Char × Cursor)
  | 0, _, _ => none
  | fuel + 1, read, cursor =>
      if cursor.isBoundary then
        none
      else do
        let (read, gap, next) ← scanQuotedWord quote fuel read cursor
        if next.startsWith quote then
          return (read, next.step)
        else if next.rest = [] then
          none
        else
          let (gap, next) ← gap.scan 0 fuel next
          scanQuoted quote fuel (gap.reversed ++ read) next

/--
The token of a plain scalar, and whether a line has ended behind it.  The fuel
is more than the number of characters that are left.
-/
def plainToken (inFlow : Bool) (margin fuel : Nat) (cursor : Cursor) :
    Option (Token × Bool × Cursor) := do
  let (read, broken, next) ← scanPlain inFlow margin fuel [] .none cursor
  return (.scalar .plain (String.ofList read.reverse), broken, next)

/-- The token of a scalar in quotes, with fuel as for plain scalars. -/
def quotedToken (quote : Char) (fuel : Nat) (cursor : Cursor) :
    Option (Token × Cursor) := do
  let (read, next) ← scanQuoted quote fuel [] cursor.step
  let style : ScalarStyle :=
    if quote = '"' then .doubleQuoted else .singleQuoted
  return (.scalar style (String.ofList read.reverse), next)

end Clearing.Yaml
