import Clearing.Json.Skip
/-!
Records in JSON.  A record is an object with the named fields in any order, or
a list of their values in the order of declaration.  Every field has to be
there, none twice; fields that the record does not name are skipped.
-/

namespace Clearing.Json

/-- A field of a record and how its value is read. -/
structure Field where
  name : String
  Carrier : Type
  read : Reader Carrier

/-- A value for every field. -/
def Row : List Field → Type
  | [] => Unit
  | field :: rest => field.Carrier × Row rest

/-- A value for some of the fields. -/
def Slots : List Field → Type
  | [] => Unit
  | field :: rest => Option field.Carrier × Slots rest

namespace Slots

/-- No field has a value yet. -/
def empty : (fields : List Field) → Slots fields
  | [] => ()
  | _ :: rest => (none, empty rest)

/-- The values, once every field has one. -/
def row? : (fields : List Field) → Slots fields → Option (Row fields)
  | [], _ => some ()
  | _ :: rest, slots => do
      let value ← slots.1
      let others ← row? rest slots.2
      return (value, others)

end Slots

/-- Take the colon between a name and its value. -/
def colon : Reader Unit := do
  if (← peek) ≠ ascii ':' then
    throw .malformed
  advance

/--
Read what follows a name.  The field of that name gets its value and must not
have one yet; a value behind any other name is skipped.
-/
def readMember (name : String) :
    (fields : List Field) → Slots fields → Reader (Slots fields)
  | [], _ => do
      colon
      skip
  | field :: rest, slots =>
      if field.name = name then
        match slots.1 with
        | some _ => throw .mismatched
        | none => do
            colon
            let value ← field.read
            return (some value, slots.2)
      else do
        let others ← readMember name rest slots.2
        return (slots.1, others)

/-- Read the members of an object from a name on, up to the closing brace. -/
def readMembers (fields : List Field) :
    (fuel : Nat) → Slots fields → Reader (Slots fields)
  | 0, _ => throw .truncated
  | fuel + 1, slots => do
      if (← peek) ≠ ascii '"' then
        throw .malformed
      advance
      let name ← stringRest
      let slots ← readMember name fields slots
      let mark ← peek
      if mark = ascii ',' then
        advance
        readMembers fields fuel slots
      else if mark = ascii '\x7d' then
        return slots
      else
        throw .malformed

/-- Read an object of which the opening brace has been taken. -/
def readObject (fields : List Field) : Reader (Row fields) := do
  let slots ←
    if (← peek) = ascii '\x7d' then
      pure (Slots.empty fields)
    else fun bytes =>
      readMembers fields (bytes.length + 1) (Slots.empty fields) bytes
  match slots.row? with
  | none => throw .mismatched
  | some row =>
      advance
      return row

/-- Read the values of the fields from a list, each but the first behind a comma. -/
def readElements : (fields : List Field) → (first : Bool) → Reader (Row fields)
  | [], _ => return ()
  | field :: rest, first => do
      let mark ← peek
      if mark = ascii ']' then
        throw .mismatched
      if !first then
        if mark ≠ ascii ',' then
          throw .malformed
        advance
        if (← peek) = ascii ']' then
          throw .malformed
      let value ← field.read
      let others ← readElements rest false
      return (value, others)

/-- Read a list of which the opening bracket has been taken. -/
def readList (fields : List Field) : Reader (Row fields) := do
  let row ← readElements fields true
  if (← peek) ≠ ascii ']' then
    throw .malformed
  advance
  return row

/--
Refuse a value of another shape than asked for.  A word, a number or a string
is read first, since what is no JSON is refused as such.
-/
def mismatch {Value : Type} : Reader Value := do
  let first ← peek
  if first = ascii 'n' then
    advance
    word ['u', 'l', 'l']
  else if first = ascii 't' then
    advance
    word ['r', 'u', 'e']
  else if first = ascii 'f' then
    advance
    word ['a', 'l', 's', 'e']
  else if first = ascii '-' ∨ isDigitByte first then
    discard number
  else if first = ascii '"' then
    advance
    discard stringRest
  else if first ≠ ascii '[' ∧ first ≠ ascii '\x7b' then
    throw .malformed
  throw .mismatched

def record (fields : List Field) : Reader (Row fields) := do
  let first ← peek
  if first = ascii '\x7b' then
    advance
    readObject fields
  else if first = ascii '[' then
    advance
    readList fields
  else
    mismatch

def string : Reader String := do
  if (← peek) = ascii '"' then
    advance
    stringRest
  else
    mismatch

/-- Read a value that a string stands for; other strings have the wrong shape. -/
def stringAs {Value : Type} (parse : String → Option Value) : Reader Value := do
  match parse (← string) with
  | some value => return value
  | none => throw .mismatched

/-- A whole text that holds one value and white space around it. -/
def decode {Value : Type} (reader : Reader Value) (bytes : Bytes) :
    Except Fault Value := do
  let (value, rest) ← reader bytes
  if skipSpace rest = [] then
    return value
  else
    throw .malformed

end Clearing.Json
