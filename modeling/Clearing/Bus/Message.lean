import Clearing.Settlement.Event
import Clearing.Trace.Headers
/-!
Messages on their way to the event bus and from it.
-/

namespace Clearing

/-- A message that a topic is to receive.  Its key decides its partition. -/
structure OutboundMessage where
  topic : String
  key : String
  payload : Bytes
  headers : Headers
deriving DecidableEq

/-- A message as a consumer is handed it, with its place in the topic. -/
structure InboundMessage where
  topic : String
  partition : Nat
  offset : Int
  key : String
  payload : Bytes
  headers : Headers
deriving DecidableEq

/-- The place that a published message got. -/
structure Placement where
  partition : Nat
  offset : Nat
deriving DecidableEq

/--
The message that carries a settlement event.  All events of a payment have the
same key, and the header list carries the trace of the request.
-/
def OutboundMessage.settlement (topic : String) (event : SettlementEvent)
    (context : TraceContext) : OutboundMessage where
  topic := topic
  key := event.id
  payload := event.encode
  headers := context.inject []

def InboundMessage.context (message : InboundMessage) : Option TraceContext :=
  TraceContext.extract message.headers

end Clearing
