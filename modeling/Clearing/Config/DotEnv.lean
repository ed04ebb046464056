import Clearing.Table
import Clearing.Text.Alphanumeric
import Clearing.Text.Ascii
import Clearing.Text.Blank
import Clearing.Text.Split
/-!
Files of variables.  A line gives a variable its value, which may be quoted and
may refer to variables that were set before.  The file ends at the first line
that cannot be read; a variable that is set already keeps its value.
-/

namespace Clearing.DotEnv

open Text

abbrev Variables := Table String String

/--
The variables of a listing in which a null character ends each, as the system
keeps them for a process.
-/
def ofListing (listing : String) : Variables :=
  (pieces '\x00' listing.toList).foldl (fun known piece =>
    match piece.span (· ≠ '=') with
    | (_, []) => known
    | (name, _ :: value) =>
        known.insert (String.ofList name) (String.ofList value)) .empty

/-- Where the end of a physical line finds a reader. -/
inductive LineState where
  | complete
  | afterBlank
  | escaped
  | strong
  | strongEscaped
  | weak
  | weakEscaped
  | comment
deriving DecidableEq

/-- What a character outside quotes leads to. -/
def LineState.open (otherwise : LineState) : Char → LineState
  | '\\' => .escaped
  | '"' => .weak
  | '\x27' => .strong
  | _ => otherwise

/-- What a character leads to. -/
def LineState.next (state : LineState) (character : Char) : LineState :=
  match state with
  | .comment => .comment
  | .escaped => .complete
  | .weakEscaped => .weak
  | .strongEscaped => .strong
  | .weak =>
      if character = '\\' then .weakEscaped
      else if character = '"' then .complete
      else .weak
  | .strong =>
      if character = '\\' then .strongEscaped
      else if character = '\x27' then .complete
      else .strong
  | .afterBlank =>
      if character = '#' then .comment else .open .complete character
  | .complete =>
      if isBlank character ∧ character ≠ '\n' ∧ character ≠ '\r' then
        .afterBlank
      else
        .open .complete character

/-- Read a line; a comment that begins in it is left out. -/
def scanLine (state : LineState) : List Char → LineState × List Char
  | [] => (state, [])
  | character :: rest =>
      match state.next character with
      | .comment => (.comment, [])
      | next =>
          let (final, read) := scanLine next rest
          (final, character :: read)

/-- The physical lines of a text, with their line feeds. -/
def physicalLines : List Char → List (List Char)
  | [] => []
  | '\n' :: rest => ['\n'] :: physicalLines rest
  | character :: rest =>
      match physicalLines rest with
      | [] => [[character]]
      | line :: lines => (character :: line) :: lines

/-- The end of a line without its line feed. -/
def withoutBreak (line : List Char) : List Char :=
  match line.reverse with
  | '\n' :: '\r' :: rest => rest.reverse
  | '\n' :: rest => rest.reverse
  | _ => line

/--
The logical lines: a quote that is open at the end of a line goes on in the
next one.  The last answer is none when a quote is never closed.
-/
def logicalLines (state : LineState) (read : List Char) :
    List (List Char) → List (Option (List Char))
  | [] => if state = .complete then [] else [none]
  | line :: rest =>
      if (trimStart (read ++ line)).head? = some '#' then
        some [] :: logicalLines .complete [] rest
      else
        match scanLine state line with
        | (.complete, kept) =>
            some (withoutBreak (read ++ kept)) ::
              logicalLines .complete [] rest
        | (.comment, kept) =>
            some (read ++ kept) :: logicalLines .complete [] rest
        | (next, kept) => logicalLines next (read ++ kept) rest

/-- How a reference to a variable is being read. -/
inductive Reference where
  | none
  | bare (name : List Char)
  | braced (name : List Char)
deriving DecidableEq

inductive Quote where
  | none
  | strong
  | weak
deriving DecidableEq

/-- What has been read of a value. -/
structure Reading where
  output : List Char
  quote : Quote
  escaped : Bool
  /-- Only blanks and a comment may follow. -/
  finished : Bool
  reference : Reference

def Reading.start : Reading where
  output := []
  quote := .none
  escaped := false
  finished := false
  reference := .none

/-- Take a character into the output. -/
def Reading.push (reading : Reading) (character : Char) : Reading :=
  { reading with output := reading.output ++ [character] }

/-- Put the value of a variable into the output. -/
def Reading.substitute (reading : Reading) (lookup : String → String)
    (name : List Char) : Reading :=
  { reading with
    output := reading.output ++ (lookup (String.ofList name)).toList
    reference := .none }

/-- Take a character that stands outside of references. -/
def Reading.plain (reading : Reading) (character : Char) : Reading :=
  if character = '$' then
    { reading with reference := .bare [] }
  else if character = '\\' then
    { reading with escaped := true }
  else if character = '"' then
    { reading with
      quote := if reading.quote = .weak then .none else .weak }
  else if reading.quote = .weak then
    reading.push character
  else if character = '\x27' then
    { reading with quote := .strong }
  else if character = ' ' ∨ character = '\t' then
    { reading with finished := true }
  else
    reading.push character

/-- What a character behind a backslash stands for. -/
def escape? : Char → Option Char
  | 'n' => some '\n'
  | character =>
      if ['\\', '\x27', '"', '$', ' '].contains character then
        some character
      else
        none

/-- Read a value up to the end of its line or to a comment. -/
def readValue (lookup : String → String) (reading : Reading) :
    List Char → Option Reading
  | [] => some reading
  | character :: rest =>
      if reading.finished then
        if character = ' ' ∨ character = '\t' then
          readValue lookup reading rest
        else if character = '#' then
          some reading
        else
          none
      else if reading.escaped then
        match escape? character with
        | some meant =>
            readValue lookup
              { reading.push meant with escaped := false } rest
        | none => none
      else if reading.quote = .strong then
        if character = '\x27' then
          readValue lookup { reading with quote := .none } rest
        else
          readValue lookup (reading.push character) rest
      else
        match reading.reference with
        | .none => readValue lookup (reading.plain character) rest
        | .bare name =>
            if isAlphanumeric character then
              readValue lookup
                { reading with reference := .bare (name ++ [character]) } rest
            else if character = '\x7b' ∧ name = [] then
              readValue lookup { reading with reference := .braced [] } rest
            else if character = '$' then
              readValue lookup
                { reading.substitute lookup name with reference := .bare [] }
                rest
            else
              readValue lookup
                ((reading.substitute lookup name).push character) rest
        | .braced name =>
            if character = '\x7d' then
              readValue lookup (reading.substitute lookup name) rest
            else
              readValue lookup
                { reading with reference := .braced (name ++ [character]) }
                rest

def value? (lookup : String → String) (characters : List Char) :
    Option String := do
  let reading ← readValue lookup .start characters
  match reading.quote, reading.reference with
  | .none, .none => some (String.ofList reading.output)
  | .none, .bare name =>
      some (String.ofList (reading.substitute lookup name).output)
  | _, _ => none

/--
The characters of the name of a variable.  Letters of other scripts, which may
stand in a reference, are not among them.
-/
def isName (character : Char) : Bool :=
  isDigit character || character == '_' || character == '.' ||
    (decide ('a' ≤ lower character) && decide (lower character ≤ 'z'))

/-- The name at the front of a line. -/
def readName (characters : List Char) : Option (String × List Char) :=
  match characters.head? with
  | none => none
  | some first =>
      if isName first && !isDigit first && first != '.' then
        some (String.ofList (characters.takeWhile isName),
          trimStart (characters.dropWhile isName))
      else
        none

/-- What stands behind an equals sign. -/
def afterEquals (characters : List Char) : Option (List Char) :=
  match characters with
  | '=' :: rest => some (trimStart rest)
  | _ => none

/-- The name on a line, which may follow the word `export`, and its value. -/
def splitLine (line : List Char) : Option (String × List Char) := do
  let (name, rest) ← readName line
  if name = "export" ∧ (afterEquals rest).isNone then
    let (name, rest) ← readName rest
    return (name, ← afterEquals rest)
  else
    return (name, ← afterEquals rest)

/-- What the variables say about a name: those of the process come first. -/
def valueOf (process file : Variables) (name : String) : String :=
  ((process.get? name) <|> (file.get? name)).getD ""

/-- Take over the variables of the lines up to the first that is malformed. -/
def loadLines (process file : Variables) :
    List (Option (List Char)) → Variables
  | [] => process
  | none :: _ => process
  | some line :: rest =>
      let line := trimmed line
      if line = [] ∨ line.head? = some '#' then
        loadLines process file rest
      else
        let read := do
          let (name, characters) ← splitLine line
          if characters = [] ∨ characters.head? = some '#' then
            some (name, "")
          else
            let value ← value? (valueOf process file) characters
            some (name, value)
        match read with
        | none => process
        | some (name, value) =>
            let process :=
              match process.get? name with
              | some _ => process
              | none => process.insert name value
            loadLines process (file.insert name value) rest

/-- Add the variables of a file to those of the process. -/
def load (process : Variables) (content : String) : Variables :=
  let characters := content.toList
  let characters :=
    if characters.head? = some '\ufeff' then characters.tail else characters
  loadLines process .empty
    (logicalLines .complete [] (physicalLines characters))

end Clearing.DotEnv
