import Clearing.Trace.Context
/-!
Header lists and the trace context in them.  Names are compared without regard
to the case of ASCII letters, and the first header of a name counts.
-/

namespace Clearing

/-- Names and values in the order in which they travel. -/
abbrev Headers := List (String × String)

namespace Headers

def get? (headers : Headers) (name : String) : Option String :=
  (headers.find? fun header => Text.equalIgnoringCase header.1 name).map
    Prod.snd

def without (headers : Headers) (name : String) : Headers :=
  headers.filter fun header => !Text.equalIgnoringCase header.1 name

end Headers

namespace TraceContext

def headerName : String := "traceparent"

/-- Write a context into a header list, in place of any that is there. -/
def inject (context : TraceContext) (headers : Headers) : Headers :=
  headers.without headerName ++ [(headerName, context.toText)]

def extract (headers : Headers) : Option TraceContext :=
  (headers.get? headerName).bind parse

end TraceContext

end Clearing
