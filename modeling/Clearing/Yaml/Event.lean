import Clearing.Yaml.Layout
/-!
The nodes of a document, one after another: a collection is what stands between
its first event and its last.  Where a node is left out, an empty scalar stands
for it.
-/

namespace Clearing.Yaml

inductive Event where
  | scalar (style : ScalarStyle) (tag : Bytes) (text : String)
  | openSequence
  | closeSequence
  | openMapping
  | closeMapping
  /-- The node that was given the anchor. -/
  | reference (anchor : String)
deriving DecidableEq

/-- An event that begins a node, with the anchor that it is given. -/
structure AnchoredEvent where
  anchor : Option String
  event : Event
deriving DecidableEq

/-- What is expected next inside of a node. -/
inductive Expectation where
  | node
  /-- What follows the marker of the start of a document. -/
  | content
  | item
  /-- An item of a sequence in the column of the key whose value it is. -/
  | alignedItem
  | entryKey
  | entryValue
  | bracketItem (isFirst : Bool)
  /-- The parts of an item that is a mapping with one entry. -/
  | pairKey
  | pairValue
  | pairEnd
  | braceKey (isFirst : Bool)
  | braceValue
  /-- The value of a key without a colon. -/
  | missingValue
deriving DecidableEq

/-- The next event, what is expected then, and the tokens that are left. -/
structure Progress where
  event : AnchoredEvent
  expected : List Expectation
  tokens : List Token

abbrev Handles := List (String × Bytes)

/-- The handles that have a meaning in every document. -/
def standardHandles : Handles :=
  [("!", Bytes.ofText "!"), ("!!", Bytes.ofText "tag:yaml.org,2002:")]

/-- The tag of a handle and what follows it. -/
def fullTag? (handles : Handles) (handle : String) (suffix : Bytes) :
    Option Bytes :=
  if handle = "" then
    some suffix
  else
    (handles.lookup handle).map (· ++ suffix)

/-- What is said of a node before the node itself. -/
structure Properties where
  anchor : Option String
  tag : Option (String × Bytes)

/-- Read an anchor and a tag, in either order. -/
def readProperties : List Token → Properties × List Token
  | .anchor name :: .tag handle suffix :: rest
  | .tag handle suffix :: .anchor name :: rest =>
      (⟨some name, some (handle, suffix)⟩, rest)
  | .anchor name :: rest => (⟨some name, none⟩, rest)
  | .tag handle suffix :: rest => (⟨none, some (handle, suffix)⟩, rest)
  | rest => (⟨none, none⟩, rest)

/-- An empty scalar in place of a node that is left out. -/
def emptyNode (expected : List Expectation) (tokens : List Token) :
    Option Progress :=
  some ⟨⟨none, .scalar .plain [] ""⟩, expected, tokens⟩

def beginNode (handles : Handles) (isBlock alignedItems : Bool)
    (expected : List Expectation) (tokens : List Token) : Option Progress :=
  match tokens with
  | .reference anchor :: rest => some ⟨⟨none, .reference anchor⟩, expected, rest⟩
  | _ => do
      let (properties, tokens) := readProperties tokens
      let tag ←
        match properties.tag with
        | none => some []
        | some (handle, suffix) => fullTag? handles handle suffix
      let begin (event : Event) (inside : List Expectation)
          (rest : List Token) : Option Progress :=
        some ⟨⟨properties.anchor, event⟩, inside ++ expected, rest⟩
      match tokens with
      | .dash :: _ =>
          if alignedItems then
            begin .openSequence [.alignedItem] tokens
          else if properties.anchor.isSome ∨ tag ≠ [] then
            begin (.scalar .plain tag "") [] tokens
          else
            none
      | .scalar style text :: rest =>
          let tag := if tag = Bytes.ofText "!" then [] else tag
          begin (.scalar style tag text) [] rest
      | .openBracket :: rest => begin .openSequence [.bracketItem true] rest
      | .openBrace :: rest => begin .openMapping [.braceKey true] rest
      | _ =>
          match isBlock, tokens with
          | true, .openItems :: rest => begin .openSequence [.item] rest
          | true, .openEntries :: rest => begin .openMapping [.entryKey] rest
          | _, _ =>
              if properties.anchor.isSome ∨ tag ≠ [] then
                begin (.scalar .plain tag "") [] tokens
              else
                none

def endNode (event : Event) (expected : List Expectation)
    (tokens : List Token) : Option Progress :=
  some ⟨⟨none, event⟩, expected, tokens⟩

/-- A token with which a document ends or another begins. -/
def Token.isOutside : Token → Bool
  | .version _ _ | .handle _ _ | .beginDocument | .endDocument | .endText => true
  | _ => false

/-- A token with which an entry of a block ends or another begins. -/
def Token.isEntryMark : Token → Bool
  | .key | .value | .closeBlock => true
  | _ => false

/-- Read what is expected next, which may end the collection around it. -/
def advance (handles : Handles) (next : Expectation)
    (expected : List Expectation) (tokens : List Token) : Option Progress :=
  let block := beginNode handles true
  let flow := beginNode handles false false
  match next, tokens with
  | .node, _ => block false expected tokens
  | .content, _ =>
      if tokens.head?.any Token.isOutside then
        emptyNode expected tokens
      else
        block false expected tokens
  | .item, .dash :: rest =>
      if rest.head?.any fun token => token == .dash || token == .closeBlock then
        emptyNode (.item :: expected) rest
      else
        block false (.item :: expected) rest
  | .item, .closeBlock :: rest => endNode .closeSequence expected rest
  | .item, _ => none
  | .alignedItem, .dash :: rest =>
      if rest.head?.any fun token => token == .dash || token.isEntryMark then
        emptyNode (.alignedItem :: expected) rest
      else
        block false (.alignedItem :: expected) rest
  | .alignedItem, _ => endNode .closeSequence expected tokens
  | .entryKey, .key :: rest =>
      if rest.head?.any Token.isEntryMark then
        emptyNode (.entryValue :: expected) rest
      else
        block true (.entryValue :: expected) rest
  | .entryKey, .closeBlock :: rest => endNode .closeMapping expected rest
  | .entryKey, _ => none
  | .entryValue, .value :: rest =>
      if rest.head?.any Token.isEntryMark then
        emptyNode (.entryKey :: expected) rest
      else
        block true (.entryKey :: expected) rest
  | .entryValue, _ => emptyNode (.entryKey :: expected) tokens
  | .bracketItem isFirst, _ =>
      match isFirst, tokens with
      | _, .closeBracket :: rest => endNode .closeSequence expected rest
      | false, .comma :: .closeBracket :: rest =>
          endNode .closeSequence expected rest
      | false, .comma :: .key :: rest | true, .key :: rest =>
          some ⟨⟨none, .openMapping⟩,
            .pairKey :: .bracketItem false :: expected, rest⟩
      | false, .comma :: rest | true, rest =>
          flow (.bracketItem false :: expected) rest
      | false, _ => none
  | .pairKey, .value :: rest | .pairKey, .comma :: rest
  | .pairKey, .closeBracket :: rest => emptyNode (.pairValue :: expected) rest
  | .pairKey, _ => flow (.pairValue :: expected) tokens
  | .pairValue, .value :: rest =>
      if rest.head?.any fun token =>
          token == .comma || token == .closeBracket then
        emptyNode (.pairEnd :: expected) rest
      else
        flow (.pairEnd :: expected) rest
  | .pairValue, _ => emptyNode (.pairEnd :: expected) tokens
  | .pairEnd, _ => endNode .closeMapping expected tokens
  | .braceKey isFirst, _ =>
      let key (rest : List Token) : Option Progress :=
        if rest.head?.any fun token => token == .value || token == .comma ||
            token == .closeBrace then
          emptyNode (.braceValue :: expected) rest
        else
          flow (.braceValue :: expected) rest
      match isFirst, tokens with
      | _, .closeBrace :: rest => endNode .closeMapping expected rest
      | false, .comma :: .closeBrace :: rest =>
          endNode .closeMapping expected rest
      | false, .comma :: .key :: rest | true, .key :: rest => key rest
      | false, .comma :: rest | true, rest =>
          flow (.missingValue :: .braceKey false :: expected) rest
      | false, _ => none
  | .braceValue, .value :: rest =>
      if rest.head?.any fun token => token == .comma || token == .closeBrace then
        emptyNode (.braceKey false :: expected) rest
      else
        flow (.braceKey false :: expected) rest
  | .braceValue, _ => emptyNode (.braceKey false :: expected) tokens
  | .missingValue, _ => emptyNode expected tokens

/-- Read until nothing is expected any more. -/
def readNode (handles : Handles) : (fuel : Nat) → Array AnchoredEvent →
    List Expectation → List Token → Option (Array AnchoredEvent × List Token)
  | _, events, [], tokens => some (events, tokens)
  | 0, _, _ :: _, _ => none
  | fuel + 1, events, next :: expected, tokens =>
      match advance handles next expected tokens with
      | none => none
      | some progress =>
          readNode handles fuel (events.push progress.event) progress.expected
            progress.tokens

/-- Read the directives in front of a document, none of them twice. -/
def readDirectives (versioned : Bool) (handles : Handles) :
    List Token → Option (Handles × List Token)
  | .version major minor :: rest =>
      if versioned ∨ major ≠ 1 ∨ (minor ≠ 1 ∧ minor ≠ 2) then
        none
      else
        readDirectives true handles rest
  | .handle name front :: rest =>
      if (handles.lookup name).isSome then
        none
      else
        readDirectives versioned (handles ++ [(name, front)]) rest
  | rest => some (handles, rest)

/-- Nothing but markers of the end follows a document. -/
def isOnly : List Token → Bool
  | .endDocument :: rest => isOnly rest
  | rest => rest == [.endText]

/-- The events of the only document that the tokens hold. -/
def events? (tokens : List Token) : Option (Array AnchoredEvent) := do
  let fuel := 4 * tokens.length + 8
  let (events, rest) ←
    match tokens with
    | .version _ _ :: _ | .handle _ _ :: _ | .beginDocument :: _ =>
        match ← readDirectives false [] tokens with
        | (handles, .beginDocument :: rest) =>
            readNode (handles ++ standardHandles) fuel #[] [.content] rest
        | _ => none
    | _ => readNode standardHandles fuel #[] [.node] tokens
  if isOnly rest then some events else none

end Clearing.Yaml
