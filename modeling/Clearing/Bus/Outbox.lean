import Clearing.Bus.Message
/-!
The outbox: messages that are stored together with the payments they belong
to, until the relay has published them.
-/

namespace Clearing

/-- A stored message.  The moment at which it was stored is left out, as nothing reads it. -/
structure OutboxEntry where
  id : Nat
  message : OutboundMessage
  published : Bool
deriving DecidableEq

/-- All entries ever written, oldest first. -/
structure Outbox where
  entries : List OutboxEntry
  /-- The number of times that pending entries were asked for. -/
  polls : Nat

namespace Outbox

def empty : Outbox where
  entries := []
  polls := 0

def push (outbox : Outbox) (message : OutboundMessage) : Nat × Outbox :=
  let id := outbox.entries.length + 1
  let entry : OutboxEntry :=
    { id, message
      published := false }
  (id, { outbox with entries := outbox.entries ++ [entry] })

/-- The entries that have not been published, oldest first. -/
def unpublished (outbox : Outbox) : List OutboxEntry :=
  outbox.entries.filter fun entry => !entry.published

def poll (outbox : Outbox) (limit : Nat) : List OutboxEntry × Outbox :=
  (outbox.unpublished.take limit, { outbox with polls := outbox.polls + 1 })

def markPublished (outbox : Outbox) (id : Nat) : Outbox :=
  { outbox with
    entries := outbox.entries.map fun entry =>
      if entry.id = id then { entry with published := true } else entry }

end Outbox

end Clearing
