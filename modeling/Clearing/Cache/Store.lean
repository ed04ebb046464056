import Clearing.Table
import Clearing.Text.Bytes
/-!
A key-value store whose entries expire.  Time is a number of nanoseconds that
every operation is given.  Expired entries are not seen by readers; they are
removed when they are read, or all at once.
-/

namespace Clearing

/-- A stored value and the moment from which on it is expired. -/
structure StoreEntry where
  value : Bytes
  expires : Nat
deriving DecidableEq

structure Store where
  entries : Table String StoreEntry

namespace Store

def empty : Store where
  entries := .empty

/-- Read a key; an expired entry is removed. -/
def get (store : Store) (key : String) (now : Nat) : Option Bytes × Store :=
  match store.entries.get? key with
  | none => (none, store)
  | some entry =>
      if now < entry.expires then
        (some entry.value, store)
      else
        (none, ⟨store.entries.erase key⟩)

def set (store : Store) (key : String) (value : Bytes) (lifetime now : Nat) :
    Store where
  entries := store.entries.insert key
    { value
      expires := now + lifetime }

def delete (store : Store) (key : String) : Store where
  entries := store.entries.erase key

/-- Remove the expired entries and tell how many there were. -/
def purge (store : Store) (now : Nat) : Nat × Store :=
  let live := store.entries.filter fun _ entry => now < entry.expires
  (store.entries.size - live.size, ⟨live⟩)

/-- The number of stored entries, expired ones included. -/
def size (store : Store) : Nat :=
  store.entries.size

end Store

end Clearing
