import Clearing.Bus.Broker
import Clearing.Cache.Error
import Clearing.Cache.Store
/-!
What an address of a broker or of a cache stands for.  The scheme of the first
address decides.  Only what lives in the memory of the process can be opened
here: databases are beyond reach, and report so.
-/

namespace Clearing

inductive Backend where
  | memory
  | database
deriving DecidableEq

/-- The backend of an address that begins with a supported scheme. -/
def Backend.ofUrl? (url : String) : Option Backend :=
  let starts := fun scheme : String =>
    scheme.toList.isPrefixOf url.toList
  if starts "memory://" then
    some .memory
  else if starts "postgres://" || starts "postgresql://" then
    some .database
  else
    none

def Broker.connect (urls : List String) (partitions : Int) :
    Except BusError Broker :=
  match urls with
  | [] => .error (.unavailable "no broker configured")
  | url :: _ =>
      match Backend.ofUrl? url with
      | some .memory => .ok (.ofPartitions partitions)
      | some .database => .error .storage
      | none => .error (.unsupportedUrl url)

def Store.connect (url : String) : Except CacheError Store :=
  match Backend.ofUrl? url with
  | some .memory => .ok .empty
  | some .database => .error .database
  | none => .error (.unsupportedUrl url)

end Clearing
