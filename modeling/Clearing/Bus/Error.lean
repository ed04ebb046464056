/-!
Errors of the event bus.
-/

namespace Clearing

inductive BusError where
  | unavailable (reason : String)
  | unsupportedUrl (url : String)
  | storage
  | codec
deriving DecidableEq

namespace BusError

def code : BusError → String
  | .unavailable _ => "BROKER_UNAVAILABLE"
  | .unsupportedUrl _ => "UNSUPPORTED_URL"
  | .storage => "STORAGE_ERROR"
  | .codec => "CODEC_ERROR"

/-- The wording of an error that is not a failure of what lies beneath. -/
def message? : BusError → Option String
  | .unavailable reason => some ("broker unavailable: " ++ reason)
  | .unsupportedUrl url => some ("unsupported broker url: " ++ url)
  | .storage | .codec => none

end BusError

end Clearing
