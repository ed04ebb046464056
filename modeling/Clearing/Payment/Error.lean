import Clearing.Payment.Status
/-!
Errors of the payment book.
-/

namespace Clearing

inductive PaymentError where
  | conflict (id : String)
  | notFound (id : String)
  | transition (error : TransitionError)
  | stale (id : String)
  | corrupt (id reason : String)
  | database
  | encoding
deriving DecidableEq

namespace PaymentError

def code : PaymentError → String
  | .conflict _ => "PAYMENT_CONFLICT"
  | .notFound _ => "PAYMENT_NOT_FOUND"
  | .transition _ => "INVALID_STATE_TRANSITION"
  | .stale _ => "STALE_STATUS"
  | .corrupt _ _ => "CORRUPT_RECORD"
  | .database => "DATABASE_ERROR"
  | .encoding => "ENCODE_ERROR"

/-- The wording of an error that is not a failure of what lies beneath. -/
def message? : PaymentError → Option String
  | .conflict id =>
      some ("payment " ++ id ++ " already exists with different parameters")
  | .notFound id => some ("payment not found: " ++ id)
  | .transition error => some error.message
  | .stale id => some ("concurrent status update on payment " ++ id)
  | .corrupt id reason =>
      some ("corrupt payment record " ++ id ++ ": " ++ reason)
  | .database | .encoding => none

end PaymentError

/-- The status of a stored name, which has to be one. -/
def PaymentStatus.ofStored (id stored : String) :
    Except PaymentError PaymentStatus :=
  match PaymentStatus.ofName? stored with
  | some status => .ok status
  | none => .error (.corrupt id ("unknown status " ++ Text.quoted stored))

end Clearing
