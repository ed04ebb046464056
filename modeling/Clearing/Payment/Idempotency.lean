import Clearing.World
/-!
Receipts that are remembered under the idempotency key of their request, so
that a repeated request gets the receipt of the first one.
-/

namespace Clearing

namespace Idempotency

def key (idempotencyKey : String) : String := "idempotency:" ++ idempotencyKey

/-- How long a receipt is remembered, in nanoseconds. -/
def defaultLifetime : Nat := 24 * 60 * 60 * 10 ^ 9

end Idempotency

namespace World

/-- The receipt of an idempotency key; what is no receipt counts as absent. -/
def recallReceipt (world : World) (idempotencyKey : String) :
    Except CacheError (Option Receipt) × World :=
  match world.cacheGet (Idempotency.key idempotencyKey) with
  | (.error error, world) => (.error error, world)
  | (.ok none, world) => (.ok none, world)
  | (.ok (some bytes), world) => (.ok (Receipt.decode bytes).toOption, world)

def rememberReceipt (world : World) (idempotencyKey : String)
    (receipt : Receipt) (lifetime : Nat) : Except CacheError Unit × World :=
  world.cacheSet (Idempotency.key idempotencyKey) receipt.encode lifetime

end World

end Clearing
