/-!
Errors of the services, with the codes under which the transport reports them.
-/

namespace Clearing

inductive ServiceError where
  /-- The caller has to change the request. -/
  | invalidArgument (reason : String)
  | notFound (reason : String)
  /-- The request collides with what is stored. -/
  | conflict (reason : String)
  /-- Something beneath failed; the caller may try again. -/
  | internal (reason : String)
  | rateLimited
deriving DecidableEq

namespace ServiceError

def code : ServiceError → String
  | .invalidArgument _ => "INVALID_ARGUMENT"
  | .notFound _ => "NOT_FOUND"
  | .conflict _ => "CONFLICT"
  | .internal _ => "INTERNAL"
  | .rateLimited => "RATE_LIMITED"

def message : ServiceError → String
  | .invalidArgument reason | .notFound reason | .conflict reason
  | .internal reason => reason
  | .rateLimited => "rate limit exceeded"

def httpStatus : ServiceError → Nat
  | .invalidArgument _ => 400
  | .notFound _ => 404
  | .conflict _ => 409
  | .internal _ => 500
  | .rateLimited => 429

def envelopeCode : ServiceError → Nat
  | .invalidArgument _ => 1001
  | .notFound _ => 4004
  | .conflict _ => 4009
  | .rateLimited => 4029
  | .internal _ => 5000

end ServiceError

end Clearing
