import Clearing.Service.Call
/-!
The outbox relay.  One pass publishes a batch of pending entries, oldest
first, and marks each as soon as the broker has accepted it.  The first entry
that cannot be published ends the pass, so that no entry overtakes another.
-/

namespace Clearing

inductive RelayStage where
  | load
  | publish (entry : OutboxEntry) (rest : List OutboxEntry) (relayed : Nat)
  | mark (id : Nat) (rest : List OutboxEntry) (relayed : Nat)
deriving DecidableEq

/-- A pass answers with the number of entries that it marked. -/
abbrev RelayPass := Call RelayStage (Except BusError Nat)

namespace RelayPass

def begin : RelayPass := .running .load

def next (relayed : Nat) : List OutboxEntry → RelayPass
  | [] => .answered (.ok relayed)
  | entry :: rest => .running (.publish entry rest relayed)

/-- Take one step of a pass over a batch of the given size at most. -/
def step (batch : Nat) (world : World) : RelayStage → RelayPass × World
  | .load =>
      match world.faults.outboxRead with
      | some error => (.answered (.error error), world)
      | none =>
          let (entries, world) := world.pollOutbox batch
          (next 0 entries, world)
  | .publish entry rest relayed =>
      match world.publish entry.message with
      | (.error _, world) => (.answered (.ok relayed), world)
      | (.ok _, world) => (.running (.mark entry.id rest relayed), world)
  | .mark id rest relayed =>
      match world.faults.outboxMark with
      | some error => (.answered (.error error), world)
      | none => (next (relayed + 1) rest, world.markPublished id)

def steps (batch : Nat) : Nat := 2 * batch + 1

end RelayPass

/-- Make a pass with nothing in between. -/
def World.relayOnce (world : World) (batch : Nat) : RelayPass × World :=
  let pending := world.book.outbox.unpublished.length
  Call.run (RelayPass.step batch) (RelayPass.steps (min batch pending)) world
    RelayPass.begin

end Clearing
