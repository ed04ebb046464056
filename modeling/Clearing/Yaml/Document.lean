import Clearing.Yaml.Event
/-!
Documents of the data format YAML.  A node is known by the place of its first
event; a reference leads to the place of the node that was given its anchor.
-/

namespace Clearing.Yaml

/-- Which anchors have been given, and where. -/
structure Anchors where
  /-- The number of the node that a name stands for. -/
  numbers : List (String × Nat)
  /-- The place of the node of a number; later ones come first. -/
  places : List (Nat × Nat)
  /-- The number that each reference leads to, by the place of the reference. -/
  references : List (Nat × Nat)

namespace Anchors

def none : Anchors where
  numbers := []
  places := []
  references := []

/-- Give a name a number, in place of one that it has had. -/
def rename (name : String) (number : Nat) :
    List (String × Nat) → List (String × Nat)
  | [] => [(name, number)]
  | entry :: rest =>
      if entry.1 = name then
        (name, number) :: rest
      else
        entry :: rename name number rest

/--
Take in an event.  An anchor gets the number of names that are known so far, so
that a name given anew may share its number with the next new name; the last
node that was given a number is the one that counts.
-/
def take (anchors : Anchors) (place : Nat) (event : AnchoredEvent) :
    Option Anchors :=
  match event.event, event.anchor with
  | .reference name, _ => do
      let number ← anchors.numbers.lookup name
      return { anchors with
        references := (place, number) :: anchors.references }
  | _, some name =>
      let number := anchors.numbers.length
      some
        { anchors with
          numbers := rename name number anchors.numbers
          places := (number, place) :: anchors.places }
  | _, Option.none => some anchors

/-- Take in all events of a document, in which each anchor precedes its uses. -/
def ofEvents (anchors : Anchors) (place : Nat) :
    List AnchoredEvent → Option Anchors
  | [] => some anchors
  | event :: rest => do
      (← anchors.take place event).ofEvents (place + 1) rest

end Anchors

structure Document where
  events : Array Event
  anchors : Anchors

namespace Document

/-- Read the only document of a text. -/
def parse (text : String) : Option Document := do
  let events ← events? (← tokens? text)
  let anchors ← Anchors.none.ofEvents 0 events.toList
  return ⟨events.map AnchoredEvent.event, anchors⟩

/-- The place that a reference leads to; every other node is where it is. -/
def target (document : Document) (place : Nat) : Nat :=
  let found := do
    document.anchors.places.lookup (← document.anchors.references.lookup place)
  found.getD place

def event? (document : Document) (place : Nat) : Option Event :=
  document.events[document.target place]?

def text? (document : Document) (place : Nat) : Option String :=
  match document.event? place with
  | some (.scalar _ _ text) => some text
  | _ => none

/-- The text of a scalar that is plain, or literal with the given tag. -/
def plain? (document : Document) (tag : String) (place : Nat) :
    Option String :=
  match document.event? place with
  | some (.scalar .plain _ text) => some text
  | some (.scalar .literal given text) =>
      if given = Bytes.ofText tag then some text else none
  | _ => none

/-- The place behind the rest of a node within a number of collections. -/
def placeBehind (document : Document) : (fuel depth place : Nat) → Nat
  | 0, _, place => place
  | fuel + 1, depth, place =>
      match document.events[place]? with
      | some .openSequence | some .openMapping =>
          placeBehind document fuel (depth + 1) (place + 1)
      | some .closeSequence | some .closeMapping =>
          if depth ≤ 1 then
            place + 1
          else
            placeBehind document fuel (depth - 1) (place + 1)
      | some (.scalar _ _ _) | some (.reference _) =>
          if depth = 0 then
            place + 1
          else
            placeBehind document fuel depth (place + 1)
      | none => place

/-- The place behind a node. -/
def after (document : Document) (place : Nat) : Nat :=
  document.placeBehind document.events.size 0 place

/-- The places of keys and values from a place within a mapping on. -/
def entriesFrom (document : Document) : (fuel place : Nat) → List (Nat × Nat)
  | 0, _ => []
  | fuel + 1, place =>
      match document.events[place]? with
      | some .closeMapping | none => []
      | some _ =>
          let value := document.after place
          (place, value) :: entriesFrom document fuel (document.after value)

/-- The places of the keys and values of a mapping. -/
def entries? (document : Document) (place : Nat) : Option (List (Nat × Nat)) :=
  match document.event? place with
  | some .openMapping =>
      some (document.entriesFrom document.events.size
        (document.target place + 1))
  | _ => none

end Document

end Clearing.Yaml
