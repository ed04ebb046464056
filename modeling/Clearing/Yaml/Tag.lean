import Clearing.Text.Ascii
import Clearing.Yaml.Cursor
import Clearing.Yaml.Token
/-!
Anchors, references and tags of nodes, and the directives in front of a
document.  A tag is a handle that stands for the front of the tag, and the rest
of it; octets may be written as percent escapes.
-/

namespace Clearing.Yaml

open Text

/-- A character that may stand behind the name of an anchor. -/
def endsAnchor (next : Option Char) : Bool :=
  endsWord next ||
    next.any fun character =>
      ['?', ':', ',', ']', '\x7d', '%', '@', '\x60'].contains character

/-- The name of an anchor or of a reference, behind its indicator. -/
def scanAnchor (cursor : Cursor) : Option (String × Cursor) :=
  let (name, next) := cursor.step.span isNameCharacter
  if name ≠ [] ∧ endsAnchor next.peek? then
    some (String.ofList name, next)
  else
    none

/-- A character of a tag; some of them only within angle brackets. -/
def isTagCharacter (bracketed : Bool) (character : Char) : Bool :=
  isNameCharacter character ||
    [';', '/', '?', ':', '@', '&', '=', '+', '$', '.', '%', '!', '~', '*',
      '\x27', '(', ')'].contains character ||
    (bracketed && [',', '[', ']'].contains character)

/-- The number of octets of a character, by the first of them. -/
def octetCount? (octet : UInt8) : Option Nat :=
  if octet < 0x80 then some 1
  else if octet &&& 0xE0 = 0xC0 then some 2
  else if octet &&& 0xF0 = 0xE0 then some 3
  else if octet &&& 0xF8 = 0xF0 then some 4
  else none

/-- The octet that a percent escape stands for. -/
def scanOctet (cursor : Cursor) : Option (UInt8 × Cursor) :=
  match cursor.rest with
  | '%' :: high :: low :: _ =>
      if isHex high && isHex low then
        some (UInt8.ofNat (hexNumber [high, low]), cursor.stepBy 3)
      else
        none
  | _ => none

/-- The octets of a character behind its first one. -/
def scanOctets : (count : Nat) → Bytes → Cursor → Option (Bytes × Cursor)
  | 0, octets, cursor => some (octets, cursor)
  | count + 1, octets, cursor => do
      let (octet, cursor) ← scanOctet cursor
      if octet &&& 0xC0 = 0x80 then
        scanOctets count (octets ++ [octet]) cursor
      else
        none

/-- The octets of a character that is written as percent escapes. -/
def scanEscapedCharacter (cursor : Cursor) : Option (Bytes × Cursor) := do
  let (octet, cursor) ← scanOctet cursor
  let count ← octetCount? octet
  scanOctets (count - 1) [octet] cursor

/-- Read characters of a tag. -/
def scanTagText (bracketed : Bool) : (fuel : Nat) → Bytes → Cursor →
    Option (Bytes × Cursor)
  | 0, read, cursor => some (read, cursor)
  | fuel + 1, read, cursor =>
      match cursor.peek? with
      | none => some (read, cursor)
      | some character =>
          if character = '%' then do
            let (octets, cursor) ← scanEscapedCharacter cursor
            scanTagText bracketed fuel (read ++ octets) cursor
          else if isTagCharacter bracketed character then
            scanTagText bracketed fuel
              (read ++ Bytes.ofText (String.singleton character)) cursor.step
          else
            some (read, cursor)

/-- Characters of a tag, and at least one of them. -/
def scanSomeTagText (bracketed : Bool) (cursor : Cursor) :
    Option (Bytes × Cursor) := do
  let (read, next) ← scanTagText bracketed cursor.rest.length [] cursor
  if read = [] then none else some (read, next)

/-- An exclamation mark, a name, and a second mark if there is one. -/
def scanHandle (cursor : Cursor) : Option (List Char × Cursor) :=
  if cursor.startsWith '!' then
    let (name, next) := cursor.step.span isNameCharacter
    if next.startsWith '!' then
      some ('!' :: name ++ ['!'], next.step)
    else
      some ('!' :: name, next)
  else
    none

/-- A handle that has a mark at both ends. -/
def isClosedHandle (handle : List Char) : Bool :=
  decide (2 ≤ handle.length) && handle.getLast? == some '!'

/-- The handle of a tag and what follows it. -/
def scanTagParts (cursor : Cursor) : Option (String × Bytes × Cursor) :=
  if cursor.second? = some '<' then do
    let (suffix, next) ← scanSomeTagText true cursor.step.step
    if next.startsWith '>' then
      return ("", suffix, next.step)
    else
      none
  else do
    let (handle, next) ← scanHandle cursor
    if isClosedHandle handle then
      let (suffix, next) ← scanSomeTagText false next
      return (String.ofList handle, suffix, next)
    else
      let front := Bytes.ofText (String.ofList handle.tail)
      let (rest, next) ← scanTagText false next.rest.length [] next
      if front ++ rest = [] then
        return ("", Bytes.ofText "!", next)
      else
        return ("!", front ++ rest, next)

/-- The token of a tag, which a blank follows, or a comma between brackets. -/
def tagToken (inFlow : Bool) (cursor : Cursor) : Option (Token × Cursor) := do
  let (handle, suffix, next) ← scanTagParts cursor
  if endsWord next.peek? || (inFlow && next.startsWith ',') then
    return (.tag handle suffix, next)
  else
    none

/-- A number of at most nine digits. -/
def scanVersionNumber (cursor : Cursor) : Option (Nat × Cursor) :=
  let (digits, next) := cursor.span isDigit
  if digits ≠ [] ∧ digits.length ≤ 9 then
    some (decimalNumber digits, next)
  else
    none

/-- The numbers of a version, with a point between them. -/
def scanVersion (cursor : Cursor) : Option (Token × Cursor) := do
  let (major, next) ← scanVersionNumber cursor
  if next.startsWith '.' then
    let (minor, next) ← scanVersionNumber next.step
    return (.version major minor, next)
  else
    none

/-- A handle and the front of a tag that it stands for from here on. -/
def scanHandleMeaning (cursor : Cursor) : Option (Token × Cursor) := do
  let (handle, next) ← scanHandle cursor
  if (handle = ['!'] ∨ isClosedHandle handle) ∧ next.peek?.any isGap then
    let (front, next) ← scanSomeTagText true next.skipGaps
    if endsWord next.peek? then
      return (.handle (String.ofList handle) front, next)
    else
      none
  else
    none

/-- The token of a directive, which ends its line. -/
def directiveToken (cursor : Cursor) : Option (Token × Cursor) := do
  let (name, next) := cursor.step.span isNameCharacter
  let behind := next.skipGaps
  let (token, next) ←
    if !endsWord next.peek? then
      none
    else
      match String.ofList name with
      | "YAML" => scanVersion behind
      | "TAG" => scanHandleMeaning behind
      | _ => none
  return (token, ← next.finishLine)

end Clearing.Yaml
