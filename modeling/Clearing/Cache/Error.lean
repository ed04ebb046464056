import Clearing.Json.Reader
/-!
Errors of the key-value cache.
-/

namespace Clearing

inductive CacheError where
  | unavailable (reason : String)
  | unsupportedUrl (url : String)
  | database
  /-- A stored value is not what was to be read from it. -/
  | codec (fault : Json.Fault)
deriving DecidableEq

/-- The wording of an error that is not a failure of what lies beneath. -/
def CacheError.message? : CacheError → Option String
  | .unavailable reason => some ("cache unavailable: " ++ reason)
  | .unsupportedUrl url => some ("unsupported cache url: " ++ url)
  | .database | .codec _ => none

end Clearing
