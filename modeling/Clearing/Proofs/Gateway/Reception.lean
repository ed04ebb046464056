import Clearing.Proofs.Gateway.Clients
import Clearing.Proofs.Gateway.Handling
import Clearing.Proofs.RateLimit.Resumption
/-!
A gateway that requests come to one after another, while the services and the sweeper of the
limiter are at work behind it.  Each client is let in by the windows of its own requests, a
request that is refused leaves no trace, and asking for the health of the service costs nothing.
-/

namespace Clearing

/-- What happens at a gateway. -/
inductive GatewayCall where
  | request (request : HttpRequest) (fresh : FreshTrace)
  /-- The windows that have elapsed are forgotten. -/
  | sweep
  /-- The stores have become whatever others made of them. -/
  | meanwhile (world : World)

/-- A gateway with the world behind it. -/
structure Reception where
  gateway : Gateway
  world : World

/-- A request with the world that it found, and what came of it. -/
structure Visit where
  time : Nat
  request : HttpRequest
  fresh : FreshTrace
  before : World
  response : Option HttpResponse
  after : World

def Visit.isRefused (visit : Visit) : Bool :=
  Gateway.refuses visit.response

structure Visit.HandledBy (visit : Visit) (gateway : Gateway) : Prop where
  response_eq :
    visit.response = (gateway.handle visit.before visit.request visit.fresh).1
  after_eq : visit.after = (gateway.handle visit.before visit.request visit.fresh).2.2

/-- How a gateway deals with a request. -/
structure Visit.DealtWith (visit : Visit) (gateway : Gateway) : Prop where
  charged_of_refused : visit.isRefused = true →
    gateway.charged? visit.request = some visit.request.clientKey
  /-- Who is refused is told so, and leaves the world as it was. -/
  refused : visit.isRefused = true →
    visit.after = visit.before ∧
      ∃ response, visit.response = some response ∧ Gateway.Refusal visit.request response
  /-- Who is charged and let in is served. -/
  served : ∀ client, gateway.charged? visit.request = some client → visit.isRefused = false →
    ∃ route, gateway.route? visit.request = some route ∧
      visit.response =
        (gateway.serve visit.before visit.request visit.fresh route).1.map
          (·.forMethod visit.request.method) ∧
      visit.after = (gateway.serve visit.before visit.request visit.fresh route).2
  /-- Who asks for the health of the service gets an answer, costs nobody and changes nothing. -/
  healthy : visit.request.path = "/health".toList →
    gateway.charged? visit.request = none ∧ visit.after = visit.before ∧
      ∃ response, visit.response = some response ∧
        response.status = if visit.request.method ∈ ["GET", "HEAD"] then 200 else 405

theorem Visit.HandledBy.dealtWith {visit : Visit} {gateway : Gateway}
    (handled : visit.HandledBy gateway) : visit.DealtWith gateway := by
  have taken := gateway.handleCase visit.before visit.request visit.fresh
  rw [← handled.response_eq, ← handled.after_eq] at taken
  constructor
  case charged_of_refused => exact fun told => (taken.of_refuses told).2.1
  case refused =>
    intro told
    obtain ⟨unchanged, _, answered⟩ := taken.of_refuses told
    exact ⟨unchanged, answered⟩
  case served => exact fun client charged letIn => taken.exists_serve charged letIn
  case healthy =>
    intro path
    have routed : gateway.route? visit.request = some .health := Gateway.route?_health path
    exact ⟨Gateway.charged?_of_routed routed, taken.of_health path⟩

def Visit.admission (visit : Visit) : Admission :=
  ⟨visit.time, !visit.isRefused⟩

namespace Reception

def worldAt (reception : Reception) (time : Nat) : World :=
  { reception.world with now := time }

def visit (reception : Reception) (time : Nat) (request : HttpRequest) (fresh : FreshTrace) :
    Visit :=
  let handled := reception.gateway.handle (reception.worldAt time) request fresh
  { time, request, fresh
    before := reception.worldAt time
    response := handled.1
    after := handled.2.2 }

def apply (reception : Reception) (timed : Timed GatewayCall) : Reception :=
  match timed.call with
  | .request request fresh =>
      let handled := reception.gateway.handle (reception.worldAt timed.time) request fresh
      { gateway := handled.2.1
        world := handled.2.2 }
  | .sweep =>
      let gateway := reception.gateway
      { reception with
        gateway := { gateway with limiter := (gateway.limiter.evict timed.time).2 } }
  | .meanwhile world => { reception with world := world }

def visit? (reception : Reception) (timed : Timed GatewayCall) : Option Visit :=
  match timed.call with
  | .request request fresh => some (reception.visit timed.time request fresh)
  | .sweep | .meanwhile _ => none

/-- The requests that come in, with what comes of each. -/
def visits (reception : Reception) : List (Timed GatewayCall) → List Visit
  | [] => []
  | timed :: rest => (reception.visit? timed).toList ++ (reception.apply timed).visits rest

end Reception

namespace Gateway

variable {gateway : Gateway}

def visitsOf (gateway : Gateway) (client : String) (visits : List Visit) : List Visit :=
  visits.filter fun visit => gateway.charged? visit.request = some client

/-- What is asked of the limiter in a call. -/
def limiterCalls (gateway : Gateway) (timed : Timed GatewayCall) : List (Timed LimiterCall) :=
  match timed.call with
  | .request request _ =>
      (gateway.charged? request).toList.map fun client => ⟨timed.time, .allow client⟩
  | .sweep => [⟨timed.time, .evict⟩]
  | .meanwhile _ => []

theorem limiterCalls_request (gateway : Gateway) (time : Nat) (request : HttpRequest)
    (fresh : FreshTrace) :
    gateway.limiterCalls ⟨time, .request request fresh⟩ =
      (gateway.charged? request).toList.map fun client => ⟨time, .allow client⟩ :=
  rfl

theorem time_of_mem_limiterCalls {timed : Timed GatewayCall} {call : Timed LimiterCall}
    (member : call ∈ gateway.limiterCalls timed) : call.time = timed.time := by
  rcases timed with ⟨time, request | _ | _⟩
  · obtain ⟨_, _, rfl⟩ := List.mem_map.mp member
    rfl
  · rw [List.mem_singleton.mp member]
  · cases member

theorem inOrder_limiterCalls (gateway : Gateway) {calls : List (Timed GatewayCall)}
    (ordered : Timed.InOrder calls) :
    Timed.InOrder (calls.flatMap gateway.limiterCalls) := by
  refine List.pairwise_flatMap.mpr ⟨fun timed _ => ?_, ordered.imp ?_⟩
  · refine List.pairwise_of_forall_mem_list fun first one second other => ?_
    rw [time_of_mem_limiterCalls one, time_of_mem_limiterCalls other]
  · intro earlier later passed first one second other
    rw [time_of_mem_limiterCalls one, time_of_mem_limiterCalls other]
    exact passed

end Gateway

namespace Reception

variable {reception : Reception}

theorem gateway_apply (reception : Reception) (timed : Timed GatewayCall) :
    (reception.apply timed).gateway =
      { reception.gateway with
        limiter := reception.gateway.limiter.after (reception.gateway.limiterCalls timed) } := by
  rcases timed with ⟨time, ⟨request, fresh⟩ | _ | _⟩
  · have handled := reception.gateway.handleCase (reception.worldAt time) request fresh
    refine handled.gateway_eq.trans ?_
    rw [Gateway.counted, Gateway.limiterCalls_request]
    cases reception.gateway.charged? request <;> rfl
  · rfl
  · rfl

/-- The limiter is asked once for each visit that is charged, and the client is told its answer. -/
theorem map_admission_visit? (reception : Reception) (timed : Timed GatewayCall)
    (client : String) :
    (reception.gateway.visitsOf client (reception.visit? timed).toList).map Visit.admission =
      reception.gateway.limiter.admissions client (reception.gateway.limiterCalls timed) := by
  rcases timed with ⟨time, ⟨request, fresh⟩ | _ | _⟩
  · rw [visit?, Gateway.limiterCalls_request]
    dsimp only [Option.toList]
    have request_eq : (reception.visit time request fresh).request = request := rfl
    cases charged : reception.gateway.charged? request with
    | none =>
        rw [Gateway.visitsOf, List.filter_cons_of_neg (by simp [request_eq, charged])]
        rfl
    | some other =>
        dsimp only [Option.toList]
        by_cases own : other = client
        · subst own
          rw [Gateway.visitsOf, List.filter_cons_of_pos (by simp [request_eq, charged])]
          simp only [List.filter_nil, List.map_cons, List.map_nil, Limiter.admissions, if_true]
          have told : (reception.visit time request fresh).isRefused =
              !(reception.gateway.limiter.allow other time).1 :=
            (reception.gateway.handleCase (reception.worldAt time) request fresh).refuses_of_charged
              charged
          rw [Visit.admission, told, Bool.not_not]
          rfl
        · rw [Gateway.visitsOf, List.filter_cons_of_neg (by simp [request_eq, charged, own])]
          simp [Limiter.admissions, own]
  · rfl
  · rfl

theorem map_admission_visits (reception : Reception) (calls : List (Timed GatewayCall))
    (client : String) :
    (reception.gateway.visitsOf client (reception.visits calls)).map Visit.admission =
      reception.gateway.limiter.admissions client
        (calls.flatMap reception.gateway.limiterCalls) := by
  induction calls generalizing reception with
  | nil => rfl
  | cons timed rest inductionHypothesis =>
      -- the rest finds the same services, and the limiter as the first call has left it
      have later := inductionHypothesis (reception.apply timed)
      rw [gateway_apply] at later
      rw [visits, Gateway.visitsOf, List.filter_append, List.map_append, List.flatMap_cons,
        Limiter.admissions_append]
      exact congrArg₂ _ (map_admission_visit? reception timed client) later

theorem handledBy_of_mem_visit? {timed : Timed GatewayCall} {visit : Visit}
    (member : visit ∈ (reception.visit? timed).toList) : visit.HandledBy reception.gateway := by
  rcases timed with ⟨time, ⟨request, fresh⟩ | _ | _⟩
  · rw [List.mem_singleton.mp member]
    exact ⟨rfl, rfl⟩
  · cases member
  · cases member

theorem exists_handledBy_of_mem_visits {calls : List (Timed GatewayCall)} {visit : Visit}
    (member : visit ∈ reception.visits calls) :
    ∃ limiter, visit.HandledBy { reception.gateway with limiter := limiter } := by
  induction calls generalizing reception with
  | nil => cases member
  | cons timed rest inductionHypothesis =>
      rcases List.mem_append.mp member with now | later
      · exact ⟨reception.gateway.limiter, handledBy_of_mem_visit? now⟩
      · obtain ⟨limiter, handled⟩ := inductionHypothesis later
        rw [gateway_apply] at handled
        exact ⟨limiter, handled⟩

/-- The requests of a client are answered by the windows that they fall into. -/
theorem map_admission_visits_eq (reception : Reception) {calls : List (Timed GatewayCall)}
    (ordered : Timed.InOrder calls) (client : String) :
    let own := reception.gateway.visitsOf client (reception.visits calls)
    own.map Visit.admission =
      reception.gateway.limiter.verdictsFrom client (own.map Visit.time) := by
  intro own
  have told : own.map Visit.admission = _ := reception.map_admission_visits calls client
  have times : own.map Visit.time = Limiter.requestTimes client
      (calls.flatMap reception.gateway.limiterCalls) := by
    rw [← Limiter.map_time_admissions reception.gateway.limiter client, ← told, List.map_map]
    rfl
  rw [told, times]
  exact reception.gateway.limiter.admissions_eq_verdictsFrom client
    (reception.gateway.inOrder_limiterCalls ordered)

/--
The requests of a client are let in window by window, the first of each as many as the limit
leaves room for, whatever they ask for and whatever others do.  Those are charged that come to a
route below one path, each to what its origin is known by, and of addresses no two are known by
one text.  Who is refused is told so and leaves the world as it was, who is charged and let in is
served, and asking for the health of the service is answered and costs nothing.
-/
theorem clients_have_windows (reception : Reception) {calls : List (Timed GatewayCall)}
    (ordered : Timed.InOrder calls) :
    (∀ client,
      let own := reception.gateway.visitsOf client (reception.visits calls)
      own.map Visit.admission =
        (reception.gateway.limiter.windowsFrom client (own.map Visit.time)).flatMap fun window =>
          window.2.mapIdx fun place time =>
            ⟨time, decide (window.1 + place < reception.gateway.limiter.limit)⟩) ∧
    (∀ visit ∈ reception.visits calls, visit.DealtWith reception.gateway) ∧
    (∀ request client, reception.gateway.charged? request = some client ↔
      (reception.gateway.route? request).isSome ∧ "/api/v1/".toList <+: request.path ∧
        request.clientKey = client) ∧
    (∀ request : HttpRequest, ∃ origin, request.ComesFrom origin) ∧
    (∀ (request : HttpRequest) (origin : ClientOrigin), request.ComesFrom origin →
      request.clientKey = origin.key) ∧
    ∀ first second : IpAddress, first.Complete → second.Complete →
      ((ClientOrigin.peer first).key = (ClientOrigin.peer second).key ↔ first = second) := by
  refine ⟨reception.map_admission_visits_eq ordered, fun visit member => ?_,
    reception.gateway.charged?_eq_some_iff, fun request => ?_,
    fun request origin comesFrom => comesFrom.clientKey_eq,
    fun first second one other => IpAddress.toText_inj one other⟩
  · obtain ⟨limiter, handled⟩ := exists_handledBy_of_mem_visits member
    -- whom a request is charged to and how it is served is not read off the limiter
    have dealt := handled.dealtWith
    exact ⟨dealt.charged_of_refused, dealt.refused, dealt.served, dealt.healthy⟩
  · obtain ⟨origin, comesFrom, _⟩ := request.exists_comesFrom
    exact ⟨origin, comesFrom⟩

/-- A request that bears the hops that a proxy noted, from one of the addresses at hand. -/
def hopped (method target hops : String) (body : Bytes) (neighbour : Nat) : HttpRequest where
  method := method
  target := target
  headers := [("X-Forwarded-For", hops)]
  body := body
  peer := some
    { address := .version4 [10, 0, 0, neighbour]
      scope := 0
      service := 4000 }

/-- Numbers for the trace of a request that bears none. -/
def doorbell : FreshTrace where
  root := .root
    { number := 81
      positive := by decide
      bounded := by decide }
    { number := 82
      positive := by decide
      bounded := by decide }
  span :=
    { number := 83
      positive := by decide
      bounded := by decide }

/-- Nobody has come yet, and each window lets one request in. -/
def newReception : Reception where
  gateway :=
    { limiter := .ofLimit 1 10
      intake := some
        { dispatch := .outbox
          topic := "settlements"
          lifetime := 10 ^ 9 }
      inquiry := none }
  world := .ofPartitions 1

/-- A client whose first request cannot even be decoded, and that comes back by other ways. -/
def visitors : List (Timed GatewayCall) :=
  [⟨1, .request (hopped "POST" "/api/v1/payments" " 203.0.113.7 , 10.0.0.9"
      (Bytes.ofText "rent") 1) doorbell⟩,
    ⟨2, .request (hopped "GET" "/api/v1/payments/rent" "203.0.113.7" [] 2) doorbell⟩,
    ⟨2, .request (hopped "GET" "/api/v1/payments/rent" "198.51.100.2" [] 1) doorbell⟩,
    ⟨3, .request (hopped "GET" "/health" "203.0.113.7" [] 1) doorbell⟩,
    ⟨5, .sweep⟩,
    ⟨11, .request (hopped "HEAD" "/api/v1/payments/rent" "203.0.113.7" [] 1) doorbell⟩,
    ⟨12, .request (hopped "GET" "/api/v1/payments/rent" "203.0.113.7" [] 3) doorbell⟩]

theorem clients_have_windows_visitors :
    let own := newReception.gateway.visitsOf "203.0.113.7" (newReception.visits visitors)
    Timed.InOrder visitors ∧
      newReception.gateway.limiter.windowsFrom "203.0.113.7" (own.map Visit.time) =
        [(0, [1, 2]), (0, [11, 12])] ∧
      own.map Visit.admission = [⟨1, true⟩, ⟨2, false⟩, ⟨11, true⟩, ⟨12, false⟩] ∧
      ∀ visit ∈ newReception.visits visitors, visit.DealtWith newReception.gateway := by
  intro own
  have ordered : Timed.InOrder visitors := by decide
  have split : newReception.gateway.limiter.windowsFrom "203.0.113.7" (own.map Visit.time) =
      [(0, [1, 2]), (0, [11, 12])] := by decide +kernel
  obtain ⟨told, dealt, _⟩ := clients_have_windows newReception ordered
  have answers : own.map Visit.admission = _ := told "203.0.113.7"
  rw [split] at answers
  exact ⟨ordered, split, answers, dealt⟩

/--
The header of the hops cannot be read as text, though its first hop could be; and last comes one
whose hop is the address that another came from.
-/
def foreignVisitors : List (Timed GatewayCall) :=
  [⟨1, .request (hopped "GET" "/api/v1/payments/rent" "203.0.113.7, café" [] 1) doorbell⟩,
    ⟨2, .request (hopped "GET" "/api/v1/payments/rent" "203.0.113.7, café" [] 2) doorbell⟩,
    ⟨3, .request (hopped "HEAD" "/api/v1/payments/rent" "203.0.113.7, café" [] 1) doorbell⟩,
    ⟨4, .request (hopped "GET" "/api/v1/payments/rent" "10.0.0.2" [] 3) doorbell⟩]

/--
One hop comes to two windows, and one window is come to by a hop and by an address.  Who asks for
the head of an answer gets no envelope.
-/
theorem unreadable_hops_share_no_window :
    let visits := newReception.visits foreignVisitors
    Timed.InOrder foreignVisitors ∧
      Text.trim (HttpRequest.firstHop "203.0.113.7, café") = "203.0.113.7" ∧
      visits.map (fun visit => visit.request.headers.get? "x-forwarded-for") =
        [some "203.0.113.7, café", some "203.0.113.7, café", some "203.0.113.7, café",
          some "10.0.0.2"] ∧
      visits.map (fun visit => newReception.gateway.charged? visit.request) =
        [some "10.0.0.1", some "10.0.0.2", some "10.0.0.1", some "10.0.0.2"] ∧
      visits.map Visit.isRefused = [false, false, true, true] ∧
      visits.map (fun visit => visit.response.map fun response =>
        (response.status, response.body.isEmpty)) =
          [some (404, false), some (404, false), some (429, true), some (429, false)] := by
  decide +kernel

end Reception

end Clearing
