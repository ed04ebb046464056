import Clearing.Balance.Cache
import Clearing.Service.Call
import Clearing.Service.Error
/-!
Balance inquiries.  The cache is asked first and the ledger if the cache has
no answer; what the ledger says is then cached.
-/

namespace Clearing

inductive InquiryStage where
  | readCache (account : String)
  | readLedger (account : String)
  | writeCache (account : String) (row : Account)
deriving DecidableEq

abbrev Inquiry := Call InquiryStage (Except ServiceError BalanceView)

namespace Inquiry

def begin (account : String) : Inquiry :=
  let account := Text.trim account
  if account = "" then
    .answered (.error (.invalidArgument "account_id is required"))
  else
    .running (.readCache account)

/-- Take one step; what is cached lives as long as told. -/
def step (lifetime : Nat) (world : World) :
    InquiryStage → Inquiry × World
  | .readCache account =>
      if world.faults.cacheSilent then
        (.running (.readCache account), world)
      else
        match world.cachedBalance account with
        | (.ok (some snapshot), world) =>
            (.answered (.ok (snapshot.view account)), world)
        | (_, world) => (.running (.readLedger account), world)
  | .readLedger account =>
      if world.faults.ledgerSilent then
        (.running (.readLedger account), world)
      else
        match world.ledger.read account with
        | .error _ =>
            (.answered (.error (.internal "failed to read balance")), world)
        | .ok none =>
            (.answered (.error (.notFound "account not found")), world)
        | .ok (some row) => (.running (.writeCache account row), world)
  | .writeCache account row =>
      if world.faults.cacheSilent then
        (.running (.writeCache account row), world)
      else
        let (_, world) := world.cacheBalance account row.snapshot lifetime
        (.answered (.ok row.view), world)

def steps : Nat := 3

end Inquiry

/-- Ask for the balance of an account with nothing in between. -/
def World.checkBalance (world : World) (lifetime : Nat) (account : String) :
    Inquiry × World :=
  Call.run (Inquiry.step lifetime) Inquiry.steps world (Inquiry.begin account)

end Clearing
