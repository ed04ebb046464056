import Clearing.Power
import Clearing.Table
/-!
Rate limiting with fixed windows.  A window starts with the first request of a
client that no earlier window covers, and admits a limited number of requests
until it has fully elapsed.  Time is a number of nanoseconds.
-/

namespace Clearing

/-- When a window started and how many requests it has admitted. -/
structure Window where
  started : Nat
  count : Nat
deriving DecidableEq

structure Limiter where
  limit : Nat
  /-- The length of a window. -/
  length : Nat
  clients : Table String Window

namespace Limiter

def ofLimit (limit length : Nat) : Limiter where
  limit := limit
  length := length
  clients := .empty

def minute : Nat := 60 * 10 ^ 9

def perMinute (limit : Nat) : Limiter :=
  ofLimit limit minute

/-- The limit of a service that sets none. -/
def defaultLimit : Nat := 100

def hasElapsed (limiter : Limiter) (window : Window) (now : Nat) : Bool :=
  decide (limiter.length ≤ now - window.started)

/-- The window that covers a request of a client. -/
def windowAt (limiter : Limiter) (client : String) (now : Nat) : Window :=
  let fresh : Window :=
    { started := now
      count := 0 }
  match limiter.clients.get? client with
  | none => fresh
  | some window => if limiter.hasElapsed window now then fresh else window

/-- Count a request and tell whether it is admitted. -/
def allow (limiter : Limiter) (client : String) (now : Nat) : Bool × Limiter :=
  let window := limiter.windowAt client now
  let admitted := decide (window.count < limiter.limit)
  let counted :=
    if admitted then { window with count := window.count + 1 } else window
  (admitted,
    { limiter with clients := limiter.clients.insert client counted })

/-- Forget the clients whose window has elapsed and tell how many they were. -/
def evict (limiter : Limiter) (now : Nat) : Nat × Limiter :=
  let active :=
    limiter.clients.filter fun _ window => !limiter.hasElapsed window now
  (limiter.clients.size - active.size, { limiter with clients := active })

end Limiter

end Clearing
