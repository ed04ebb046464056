import Clearing.Text.Percent
import Clearing.Text.Split
/-!
The routes of the gateway.  A role that a deployment does not play leaves its
routes out.
-/

namespace Clearing

inductive Route where
  | health
  | initiate
  | details (payment : List Char)
  | balance (account : List Char)
deriving DecidableEq

namespace Route

/-- The route of a path, given which roles are played. -/
def ofPath? (playsPayment playsLedger : Bool) (path : List Char) :
    Option Route :=
  match (Text.pieces '/' path).map String.ofList with
  | ["", "health"] => some .health
  | ["", "api", "v1", "payments"] =>
      if playsPayment then some .initiate else none
  | ["", "api", "v1", "payments", payment] =>
      if playsPayment ∧ payment ≠ "" then
        some (.details payment.toList)
      else
        none
  | ["", "api", "v1", "accounts", account, "balance"] =>
      if playsLedger then some (.balance account.toList) else none
  | _ => none

def methods : Route → List String
  | .initiate => ["POST"]
  | .health | .details _ | .balance _ => ["GET", "HEAD"]

/-- Requests for the health of the service are never refused. -/
def isLimited : Route → Bool
  | .health => false
  | .initiate | .details _ | .balance _ => true

end Route

end Clearing
