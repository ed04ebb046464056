import Clearing.Json.Number
/-!
Skipping a value whose content does not matter.  The value has to be JSON, but
its strings may hold bytes that are not UTF-8 and lone halves of pairs.
-/

namespace Clearing.Json

/-- Skip a string up to its closing quote. -/
def skipStringBody : (fuel : Nat) → (bytes : Bytes) → Except Fault Bytes
  | 0, _ => .error .truncated
  | _ + 1, [] => .error .truncated
  | fuel + 1, byte :: rest =>
      if byte = ascii '"' then
        .ok rest
      else if byte = ascii '\\' then
        match rest with
        | [] => .error .truncated
        | mark :: rest =>
            if (shortEscapes.lookup mark).isSome then
              skipStringBody fuel rest
            else if mark = ascii 'u' then do
              let (_, rest) ← hexFour rest
              skipStringBody fuel rest
            else
              .error .malformed
      else if byte < 0x20 then
        .error .malformed
      else
        skipStringBody fuel rest

/-- Skip a string of which the opening quote has been taken. -/
def skipString : Reader Unit := fun bytes => do
  let rest ← skipStringBody (bytes.length + 1) bytes
  return ((), rest)

/-- Skip a number; one that stops too early is no number. -/
def skipNumber : Reader Unit := fun bytes =>
  match numberToken bytes with
  | .ok (_, rest) => .ok ((), rest)
  | .error _ => .error .malformed

mutual

def skipValue : (fuel : Nat) → Reader Unit
  | 0 => throw .truncated
  | fuel + 1 => do
      let first ← peek
      if first = ascii 'n' then
        advance
        word ['u', 'l', 'l']
      else if first = ascii 't' then
        advance
        word ['r', 'u', 'e']
      else if first = ascii 'f' then
        advance
        word ['a', 'l', 's', 'e']
      else if first = ascii '"' then
        advance
        skipString
      else if first = ascii '-' ∨ isDigitByte first then
        skipNumber
      else if first = ascii '[' then
        advance
        if (← peek) = ascii ']' then advance else skipElements fuel
      else if first = ascii '\x7b' then
        advance
        if (← peek) = ascii '\x7d' then advance else skipMembers fuel
      else
        throw .malformed

/-- Skip the elements of a list up to its closing bracket. -/
def skipElements : (fuel : Nat) → Reader Unit
  | 0 => throw .truncated
  | fuel + 1 => do
      skipValue fuel
      let mark ← peek
      if mark = ascii ',' then
        advance
        skipElements fuel
      else if mark = ascii ']' then
        advance
      else
        throw .malformed

/-- Skip the members of an object up to its closing brace. -/
def skipMembers : (fuel : Nat) → Reader Unit
  | 0 => throw .truncated
  | fuel + 1 => do
      if (← peek) ≠ ascii '"' then
        throw .malformed
      advance
      skipString
      if (← peek) ≠ ascii ':' then
        throw .malformed
      advance
      skipValue fuel
      let mark ← peek
      if mark = ascii ',' then
        advance
        skipMembers fuel
      else if mark = ascii '\x7d' then
        advance
      else
        throw .malformed

end

/-- Skip the value in front, whatever it is. -/
def skip : Reader Unit := fun bytes =>
  skipValue (2 * bytes.length + 2) bytes

end Clearing.Json
