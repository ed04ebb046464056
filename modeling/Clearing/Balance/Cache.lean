import Clearing.Balance.Snapshot
import Clearing.World
/-!
The balance cache.  It is never authoritative: whoever uses it goes on without
it when it fails.
-/

namespace Clearing

namespace BalanceCache

def key (account : String) : String := "balance:" ++ account

/-- How long a balance stays in the cache, in nanoseconds. -/
def defaultLifetime : Nat := 60 * 10 ^ 9

end BalanceCache

namespace World

def cachedBalance (world : World) (account : String) :
    Except CacheError (Option Snapshot) × World :=
  match world.cacheGet (BalanceCache.key account) with
  | (.error error, world) => (.error error, world)
  | (.ok none, world) => (.ok none, world)
  | (.ok (some bytes), world) =>
      match Snapshot.decode bytes with
      | .ok snapshot => (.ok (some snapshot), world)
      | .error fault => (.error (.codec fault), world)

def cacheBalance (world : World) (account : String) (snapshot : Snapshot)
    (lifetime : Nat) : Except CacheError Unit × World :=
  world.cacheSet (BalanceCache.key account) snapshot.encode lifetime

def dropBalance (world : World) (account : String) :
    Except CacheError Unit × World :=
  world.cacheDelete (BalanceCache.key account)

end World

end Clearing
