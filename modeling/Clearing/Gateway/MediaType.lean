import Clearing.Text.Ascii
/-!
Media types, as the content type of a request names them: a type, a subtype
with a suffix behind a plus sign, and parameters.
-/

namespace Clearing.MediaType

open Text

/-- A character that names and unquoted values consist of. -/
def isToken (character : Char) : Bool :=
  isDigit character ||
    (decide ('a' ≤ lower character) && decide (lower character ≤ 'z')) ||
    "!#$%&'*+-.^_`|~".toList.contains character

def isQuotable (character : Char) : Bool :=
  decide (' ' ≤ character) && character != '\x7f'

/-- What may follow a quoted value: blanks, then a semicolon or the end. -/
def afterQuoted (characters : List Char) : Option (List Char) :=
  match characters.dropWhile (· = ' ') with
  | [] => some []
  | ';' :: rest => some rest
  | _ => none

/-- Skip the rest of a quoted value, of which a character has been seen. -/
def skipQuoted : List Char → Option (List Char)
  | [] => none
  | character :: rest =>
      if character = '"' then
        afterQuoted rest
      else if isQuotable character then
        skipQuoted rest
      else
        none

def skipValue (characters : List Char) : Option (List Char) :=
  match characters with
  | '"' :: rest =>
      match rest with
      | [] => none
      | character :: rest =>
          if isQuotable character then skipQuoted rest else none
  | _ =>
      let value := characters.takeWhile isToken
      match characters.dropWhile isToken with
      | [] => some []
      | ';' :: rest => if value = [] then none else some rest
      | _ => none

/-- Parameters are names and values with equals signs between them. -/
def areParameters : (fuel : Nat) → List Char → Bool
  | 0, _ => false
  | fuel + 1, characters =>
      match characters.dropWhile (· = ' ') with
      | [] => true
      | characters =>
          let name := characters.takeWhile isToken
          match characters.dropWhile isToken with
          | '=' :: rest =>
              if name = [] then
                false
              else
                match skipValue rest with
                | some rest => areParameters fuel rest
                | none => false
          | _ => false

/-- The part before the last plus sign, and the part behind it. -/
def splitSuffix (subtype : List Char) : List Char × Option (List Char) :=
  let suffix := (subtype.reverse.takeWhile (· ≠ '+')).reverse
  let kept := subtype.take (subtype.length - suffix.length - 1)
  if subtype.contains '+' ∧ kept ≠ [] then
    (kept, some suffix)
  else
    (subtype, none)

/-- The content of a JSON document, under any of the names for it. -/
def isJson (text : String) : Bool :=
  let characters := text.toList.map lower
  let family := characters.takeWhile isToken
  match characters.dropWhile isToken with
  | '/' :: rest =>
      let subtype := rest.takeWhile isToken
      let (kept, suffix) := splitSuffix subtype
      let parametersFit :=
        match rest.dropWhile isToken with
        | [] => true
        | ';' :: rest => subtype ≠ [] && areParameters (rest.length + 1) rest
        | _ => false
      family == "application".toList && parametersFit &&
        (kept == "json".toList || suffix == some "json".toList)
  | _ => false

end Clearing.MediaType
