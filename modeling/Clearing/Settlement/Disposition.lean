import Clearing.Payment.Status
/-!
What becomes of a delivered message, and how often each of that has happened.
-/

namespace Clearing

inductive Disposition where
  /-- The transfer has been applied now. -/
  | settled
  /-- An earlier delivery had applied the transfer. -/
  | alreadySettled
  /-- The transfer was refused for the reason of the given code. -/
  | rejected (code : String)
  /-- The ledger could not be reached; the payment stays pending. -/
  | deferred
  /-- The message is no settlement event. -/
  | poison
deriving DecidableEq

namespace Disposition

def name : Disposition → String
  | .settled => "Settled"
  | .alreadySettled => "AlreadySettled"
  | .rejected _ => "Rejected"
  | .deferred => "Deferred"
  | .poison => "Poison"

def code? : Disposition → Option String
  | .rejected code => some code
  | .settled | .alreadySettled | .deferred | .poison => none

/-- The status that a payment gets, if its fate is known. -/
def resolvedStatus : Disposition → Option PaymentStatus
  | .settled | .alreadySettled => some .completed
  | .rejected _ => some .failed
  | .deferred | .poison => none

end Disposition

/-- The numbers of messages by what became of them. -/
structure SettlementStats where
  settled : Nat
  duplicates : Nat
  rejected : Nat
  deferred : Nat
  poison : Nat
  commitFailures : Nat
deriving DecidableEq

namespace SettlementStats

def zero : SettlementStats where
  settled := 0
  duplicates := 0
  rejected := 0
  deferred := 0
  poison := 0
  commitFailures := 0

def count (stats : SettlementStats) : Disposition → SettlementStats
  | .settled => { stats with settled := stats.settled + 1 }
  | .alreadySettled => { stats with duplicates := stats.duplicates + 1 }
  | .rejected _ => { stats with rejected := stats.rejected + 1 }
  | .deferred => { stats with deferred := stats.deferred + 1 }
  | .poison => { stats with poison := stats.poison + 1 }

def countCommitFailure (stats : SettlementStats) : SettlementStats :=
  { stats with commitFailures := stats.commitFailures + 1 }

def toText (stats : SettlementStats) : String :=
  "settled=" ++ toString stats.settled ++
    " duplicates=" ++ toString stats.duplicates ++
    " rejected=" ++ toString stats.rejected ++
    " deferred=" ++ toString stats.deferred ++
    " poison=" ++ toString stats.poison ++
    " commit_failures=" ++ toString stats.commitFailures

end SettlementStats

end Clearing
