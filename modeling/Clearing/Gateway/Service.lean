import Clearing.Balance.Inquiry
import Clearing.Gateway.Http
import Clearing.Gateway.MediaType
import Clearing.Gateway.Route
import Clearing.Payment.Intake
import Clearing.RateLimit.Limiter
/-!
The gateway.  A request to a route behind the rate limiter is counted first and
refused without a further look once its client has used up its window.  Answers
come in an envelope: a code, which is zero on success, a message, and data.
-/

namespace Clearing

/-- The services that a gateway fronts; a role that is not played has none. -/
structure Gateway where
  limiter : Limiter
  /-- The settings of the payment intake. -/
  intake : Option IntakeSettings
  /-- How long balances are cached, in nanoseconds. -/
  inquiry : Option Nat

namespace HttpResponse

def jsonType : String := "application/json"

def ofJson (status : Nat) (body : Bytes) : HttpResponse where
  status := status
  contentType := some jsonType
  allow := none
  body := body

def bare (status : Nat) : HttpResponse where
  status := status
  contentType := none
  allow := none
  body := []

def envelope (code : Nat) (message : String) (data : Option Bytes) : Bytes :=
  Json.writeObject
    ([("code", Bytes.ofText (toString code)),
      ("msg", Json.writeString message)] ++
        data.toList.map fun data => ("data", data))

def success (data : Bytes) : HttpResponse :=
  ofJson 200 (envelope 0 "ok" (some data))

def failure (error : ServiceError) : HttpResponse :=
  ofJson error.httpStatus (envelope error.envelopeCode error.message none)

/-- The response to a request that no service answered in time. -/
def timedOut : HttpResponse := failure (.internal "request timed out")

/-- The response to a path that does not decode to text. -/
def badPath (parameter : String) : HttpResponse where
  status := 400
  contentType := some "text/plain; charset=utf-8"
  allow := none
  body := Bytes.ofText ("Invalid URL: Invalid UTF-8 in `" ++ parameter ++ "`")

def ofResult {Value : Type} (encode : Value → Bytes) :
    Except ServiceError Value → HttpResponse
  | .ok value => success (encode value)
  | .error error => failure error

/-- What is sent of a response, given the method of its request. -/
def forMethod (response : HttpResponse) (method : String) : HttpResponse :=
  if method = "HEAD" then { response with body := [] } else response

end HttpResponse

/-- How long a service may take to answer a request, in nanoseconds. -/
def requestDeadline : Nat := 5 * 10 ^ 9

/-- The largest body that is read, in bytes. -/
def maximumBody : Nat := 2 * 2 ^ 20

/-- Why the body of a request is no payment request. -/
inductive BodyError where
  | contentType
  | tooLarge
  | json (fault : Json.Fault)
deriving DecidableEq

def BodyError.message : BodyError → String
  | .contentType => "Expected request with `Content-Type: application/json`"
  | .tooLarge => "Failed to buffer the request body"
  | .json .malformed | .json .truncated =>
      "Failed to parse the request body as JSON"
  | .json .mismatched =>
      "Failed to deserialize the JSON body into the target type"

def HttpRequest.paymentRequest (request : HttpRequest) :
    Except BodyError PaymentRequest :=
  if ((request.header? "content-type").any MediaType.isJson) = false then
    .error .contentType
  else if maximumBody < request.body.length then
    .error .tooLarge
  else
    (PaymentRequest.decode request.body).mapError .json

/-- New numbers for a request: its own trace, and the span of its event. -/
structure FreshTrace where
  root : TraceContext
  span : Span

namespace Gateway

def route? (gateway : Gateway) (request : HttpRequest) : Option Route :=
  Route.ofPath? gateway.intake.isSome gateway.inquiry.isSome request.path

/-- The response to a method that a route does not allow. -/
def wrongMethod (route : Route) : HttpResponse :=
  { HttpResponse.bare 405 with
    allow := some (",".intercalate route.methods) }

/-- The response to a request whose client has used up its window. -/
def refused (route : Route) (method : String) : HttpResponse :=
  { HttpResponse.failure .rateLimited with
    allow :=
      if method ∈ route.methods then
        none
      else
        (wrongMethod route).allow }

def initiate (settings : IntakeSettings) (world : World)
    (request : HttpRequest) (fresh : FreshTrace) :
    Option HttpResponse × World :=
  match request.paymentRequest with
  | .error error =>
      (some (.failure
        (.invalidArgument ("invalid request body: " ++ error.message))), world)
  | .ok payment =>
      let traced : TracedRequest :=
        { request := payment
          context := request.context?.getD fresh.root
          span := fresh.span }
      let (call, world) := world.initiatePayment settings traced
      (call.answer?.map (.ofResult Receipt.encode), world)

def details (world : World) (payment : List Char) : HttpResponse :=
  match (Text.percentDecoded payment).toText? with
  | none => .badPath "payment_id"
  | some id => .ofResult PaymentView.encode (world.findPayment id)

def balance (lifetime : Nat) (world : World) (account : List Char) :
    Option HttpResponse × World :=
  match (Text.percentDecoded account).toText? with
  | none => (some (.badPath "account_id"), world)
  | some id =>
      let (call, world) := world.checkBalance lifetime id
      (call.answer?.map (.ofResult BalanceView.encode), world)

/-- Report that the service is up, and the time in milliseconds. -/
def health (world : World) : HttpResponse :=
  .success (Json.writeObject
    [("timestamp_ms", Bytes.ofText (toString world.moment.unixMilliseconds))])

/-- Answer an admitted request.  There is no response if no service answers. -/
def serve (gateway : Gateway) (world : World) (request : HttpRequest)
    (fresh : FreshTrace) (route : Route) : Option HttpResponse × World :=
  if request.method ∉ route.methods then
    (some (wrongMethod route), world)
  else
    match route, gateway.intake, gateway.inquiry with
    | .health, _, _ => (some (health world), world)
    | .initiate, some settings, _ => initiate settings world request fresh
    | .details payment, _, _ => (some (details world payment), world)
    | .balance account, _, some lifetime => balance lifetime world account
    | .initiate, none, _ | .balance _, _, none => (some (.bare 404), world)

def handle (gateway : Gateway) (world : World) (request : HttpRequest)
    (fresh : FreshTrace) : Option HttpResponse × Gateway × World :=
  match gateway.route? request with
  | none => (some (.bare 404), gateway, world)
  | some route =>
      let (admitted, limiter) :=
        if route.isLimited then
          gateway.limiter.allow request.clientKey world.now
        else
          (true, gateway.limiter)
      let gateway := { gateway with limiter := limiter }
      let (response, world) :=
        if admitted then
          gateway.serve world request fresh route
        else
          (some (refused route request.method), world)
      (response.map (·.forMethod request.method), gateway, world)

end Gateway

end Clearing
