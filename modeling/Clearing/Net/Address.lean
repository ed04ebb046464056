import Clearing.Text.Ascii
/-!
Socket addresses: an address of version 4 or 6 of the internet protocol and the
number of a service there.  They are read strictly and written in canonical
form, where the longest run of zero groups of a version 6 address is left out.
-/

namespace Clearing

inductive IpAddress where
  /-- Four numbers below 2^8. -/
  | version4 (octets : List Nat)
  /-- Eight numbers below 2^16. -/
  | version6 (groups : List Nat)
deriving DecidableEq

structure SocketAddress where
  address : IpAddress
  /-- The zone of a version 6 address, zero if none is named. -/
  scope : Nat
  /-- The number under which a service listens, below 2^16. -/
  service : Nat
deriving DecidableEq

namespace SocketAddress

open Text

/-- Read the digits at the front as a number below a bound. -/
def readBounded (isDigit : Char → Bool) (value : List Char → Nat) (bound : Nat)
    (characters : List Char) : Option (Nat × List Char) :=
  let digits := characters.takeWhile isDigit
  if digits ≠ [] ∧ value digits < bound then
    some (value digits, characters.dropWhile isDigit)
  else
    none

def readMark (mark : Char) : List Char → Option (List Char)
  | [] => none
  | character :: rest => if character = mark then some rest else none

/-- Read a number below 256 that has no zeros in front. -/
def readOctet (characters : List Char) : Option (Nat × List Char) := do
  let digits := characters.takeWhile isDigit
  let octet ← readBounded isDigit decimalNumber 256 characters
  if digits.length ≤ 3 ∧ (digits.length = 1 ∨ digits.head? ≠ some '0') then
    return octet
  else
    none

/-- Read a number of octets, each but the first behind a point. -/
def readOctets : (count : Nat) → (first : Bool) → List Char →
    Option (List Nat × List Char)
  | 0, _, characters => some ([], characters)
  | count + 1, first, characters => do
      let characters ← if first then some characters else readMark '.' characters
      let (octet, characters) ← readOctet characters
      let (octets, characters) ← readOctets count false characters
      return (octet :: octets, characters)

def readVersion4 (characters : List Char) : Option (List Nat × List Char) :=
  readOctets 4 true characters

/-- Read one to four hexadecimal digits. -/
def readGroup (characters : List Char) : Option (Nat × List Char) :=
  if (characters.takeWhile isHex).length ≤ 4 then
    readBounded isHex hexNumber (2 ^ 16) characters
  else
    none

/-- Two groups from the four octets at the end of a version 6 address. -/
def groupsOfOctets : List Nat → List Nat
  | high :: low :: rest => (256 * high + low) :: groupsOfOctets rest
  | _ => []

/--
Read groups with colons between them, at most as many as told.  The last two
may be written as a version 4 address, which is told as well.
-/
def readGroups : (limit : Nat) → (first : Bool) → List Char →
    List Nat × Bool × List Char
  | 0, _, characters => ([], false, characters)
  | limit + 1, first, characters =>
      let separated := if first then some characters else readMark ':' characters
      let embedded := if limit = 0 then none else separated.bind readVersion4
      match embedded with
      | some (octets, rest) => (groupsOfOctets octets, true, rest)
      | none =>
          match separated.bind readGroup with
          | none => ([], false, characters)
          | some (group, rest) =>
              let (groups, isEmbedded, rest) := readGroups limit false rest
              (group :: groups, isEmbedded, rest)

/-- Read eight groups, or fewer with a double colon in place of zeros. -/
def readVersion6 (characters : List Char) : Option (List Nat × List Char) :=
  let (head, isEmbedded, rest) := readGroups 8 true characters
  if head.length = 8 then
    some (head, rest)
  else if isEmbedded then
    none
  else do
    let rest ← readMark ':' rest
    let rest ← readMark ':' rest
    let (tail, _, rest) := readGroups (7 - head.length) true rest
    return (head ++ List.replicate (8 - head.length - tail.length) 0 ++ tail,
      rest)

def readService (characters : List Char) : Option (Nat × List Char) := do
  let rest ← readMark ':' characters
  readBounded isDigit decimalNumber (2 ^ 16) rest

/-- Read the zone behind a version 6 address, if one is named. -/
def readScope (characters : List Char) : Option (Nat × List Char) :=
  match characters with
  | '%' :: rest => readBounded isDigit decimalNumber (2 ^ 32) rest
  | _ => some (0, characters)

def parseVersion4 (characters : List Char) : Option SocketAddress := do
  let (octets, rest) ← readVersion4 characters
  let (service, rest) ← readService rest
  if rest = [] then
    return { address := .version4 octets, scope := 0, service }
  else
    none

def parseVersion6 (characters : List Char) : Option SocketAddress := do
  let rest ← readMark '[' characters
  let (groups, rest) ← readVersion6 rest
  let (scope, rest) ← readScope rest
  let rest ← readMark ']' rest
  let (service, rest) ← readService rest
  if rest = [] then
    return { address := .version6 groups, scope, service }
  else
    none

def parse (text : String) : Option SocketAddress :=
  parseVersion4 text.toList <|> parseVersion6 text.toList

end SocketAddress

namespace IpAddress

/-- The lengths of the runs of zeros that start at each place of a list. -/
def zeroRuns : List Nat → List Nat
  | [] => []
  | group :: rest =>
      let runs := zeroRuns rest
      (if group = 0 then runs.headD 0 + 1 else 0) :: runs

/-- The place and the length of the first longest run of zeros. -/
def longestRun (groups : List Nat) : Nat × Nat :=
  let runs := zeroRuns groups
  let longest := runs.foldl max 0
  (runs.findIdx (· = longest), longest)

def join (mark : Char) : List (List Char) → List Char
  | [] => []
  | [piece] => piece
  | piece :: rest => piece ++ mark :: join mark rest

def writeOctets (octets : List Nat) : List Char :=
  join '.' (octets.map (Nat.toDigits 10))

def writeGroups (groups : List Nat) : List Char :=
  join ':' (groups.map (Nat.toDigits 16))

/-- The four octets at the end of an address that stands for a version 4 one. -/
def mapped? : List Nat → Option (List Nat)
  | [0, 0, 0, 0, 0, 0xFFFF, high, low] =>
      some [high / 256, high % 256, low / 256, low % 256]
  | _ => none

def toCharacters : IpAddress → List Char
  | version4 octets => writeOctets octets
  | version6 groups =>
      match mapped? groups with
      | some octets => "::ffff:".toList ++ writeOctets octets
      | none =>
          let (place, length) := longestRun groups
          if 1 < length then
            writeGroups (groups.take place) ++ [':', ':'] ++
              writeGroups (groups.drop (place + length))
          else
            writeGroups groups

def toText (address : IpAddress) : String :=
  String.ofList address.toCharacters

end IpAddress

/-- An address with the number of its service, in brackets if it is of version 6. -/
def SocketAddress.toText (address : SocketAddress) : String :=
  let service := ':' :: Nat.toDigits 10 address.service
  match address.address with
  | .version4 _ => String.ofList (address.address.toCharacters ++ service)
  | .version6 _ =>
      let scope :=
        if address.scope = 0 then [] else '%' :: Nat.toDigits 10 address.scope
      String.ofList
        ('[' :: address.address.toCharacters ++ scope ++ ']' :: service)

end Clearing
