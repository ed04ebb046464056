import Clearing.Text.Quoted
/-!
The status of a payment.  A payment is pending until it is settled, and then
completed or failed for good.
-/

namespace Clearing

inductive PaymentStatus where
  | pending
  | completed
  | failed
deriving DecidableEq

/-- Why a payment cannot move from one status to another. -/
inductive TransitionError where
  | fromTerminal (source target : PaymentStatus)
  | notAllowed (source target : PaymentStatus)
deriving DecidableEq

namespace PaymentStatus

def all : List PaymentStatus := [.pending, .completed, .failed]

/-- The name under which a status is stored. -/
def name : PaymentStatus → String
  | .pending => "PENDING"
  | .completed => "COMPLETED"
  | .failed => "FAILED"

def ofName? (name : String) : Option PaymentStatus :=
  all.find? fun status => status.name == name

theorem ofName?_name (status : PaymentStatus) : ofName? status.name = some status := by
  cases status <;> decide

/-- A status that a payment never leaves. -/
def isTerminal : PaymentStatus → Bool
  | .pending => false
  | .completed | .failed => true

/-- A pending payment may move anywhere, a settled one nowhere. -/
def checkTransition (source target : PaymentStatus) :
    Except TransitionError Unit :=
  match source with
  | .pending => .ok ()
  | .completed | .failed => .error (.fromTerminal source target)

end PaymentStatus

def TransitionError.message : TransitionError → String
  | .fromTerminal source target =>
      "invalid transition: " ++ source.name ++ " is terminal, cannot move to " ++
        target.name
  | .notAllowed source target =>
      "invalid transition from " ++ source.name ++ " to " ++ target.name

/-- The status that is reported for a stored name. -/
inductive StatusView where
  | unspecified
  | known (status : PaymentStatus)
deriving DecidableEq

namespace StatusView

def name : StatusView → String
  | .unspecified => "PAYMENT_STATUS_UNSPECIFIED"
  | .known status => status.name

def ofName? (name : String) : Option StatusView :=
  if name = StatusView.unspecified.name then
    some .unspecified
  else
    (PaymentStatus.ofName? name).map .known

/-- A stored name that is no status is reported as unspecified. -/
def ofStored (name : String) : StatusView :=
  match PaymentStatus.ofName? name with
  | some status => .known status
  | none => .unspecified

theorem ofName?_name (view : StatusView) : ofName? view.name = some view := by
  rcases view with _ | (_ | _ | _) <;> decide

end StatusView

end Clearing
