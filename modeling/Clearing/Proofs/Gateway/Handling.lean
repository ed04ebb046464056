import Clearing.Gateway.Service
import Clearing.Proofs.Balance.Inquiries
import Clearing.Proofs.Payment.Failures
import Clearing.Proofs.Text.Splitting
/-!
What becomes of a request at the gateway.  It is on no route, or it is refused, or it is served;
and only the limiter refuses, because no service has an answer of that status.
-/

namespace Clearing

theorem ServiceError.httpStatus_eq_iff (error : ServiceError) :
    error.httpStatus = 429 ↔ error = .rateLimited := by
  cases error <;> simp [httpStatus]

/-! No service answers that a client has used up its window. -/

theorem Intake.Failure.ne_rateLimited {settings : IntakeSettings} {world after : World}
    {traced : TracedRequest} {error : ServiceError}
    (failure : Failure settings world traced error after) : error ≠ .rateLimited := by
  cases failure <;> nofun

theorem World.initiatePayment_ne_rateLimited (world : World) (settings : IntakeSettings)
    (traced : TracedRequest) :
    (world.initiatePayment settings traced).1 ≠ .answered (.error .rateLimited) := by
  intro failed
  have failure : Intake.Failure settings world traced .rateLimited
      (world.initiatePayment settings traced).2 :=
    Intake.failure_of_initiatePayment (by rw [← failed])
  exact failure.ne_rateLimited rfl

theorem World.findPayment_ne_rateLimited (world : World) (id : String) :
    world.findPayment id ≠ .error .rateLimited := by
  intro failed
  unfold findPayment at failed
  dsimp only at failed
  split at failed
  · cases failed
  · split at failed <;> cases failed

theorem Inquiry.step_ne_rateLimited (lifetime : Nat) (world : World) (stage : InquiryStage) :
    (step lifetime world stage).1 ≠ .answered (.error .rateLimited) := by
  have taken := stepCase lifetime world stage
  generalize step lifetime world stage = result at taken ⊢
  rcases result with ⟨call, after⟩
  cases taken <;> nofun

theorem World.checkBalance_ne_rateLimited (world : World) (lifetime : Nat) (account : String) :
    (world.checkBalance lifetime account).1 ≠ .answered (.error .rateLimited) := by
  intro failed
  refine Call.answer_of_run (· ≠ .error .rateLimited) ?_ Inquiry.steps ?_ _ failed rfl
  · rintro world stage _ answered rfl
    exact Inquiry.step_ne_rateLimited lifetime world stage answered
  · rintro _ begun rfl
    unfold Inquiry.begin at begun
    dsimp only at begun
    split at begun <;> cases begun

namespace Route

theorem path_eq_of_pieces {path : List Char} {names : List String}
    (cut : (Text.pieces '/' path).map String.ofList = names) :
    path = ['/'].intercalate (names.map String.toList) := by
  rw [← cut, List.map_map]
  simp [Function.comp_def, Text.intercalate_pieces]

theorem isPrefix_of_pieces {path : List Char} {name : String} {names : List String}
    (cut : (Text.pieces '/' path).map String.ofList = "" :: "api" :: "v1" :: name :: names) :
    "/api/v1/".toList <+: path := by
  refine ⟨['/'].intercalate ((name :: names).map String.toList), ?_⟩
  rw [path_eq_of_pieces cut]
  simp [List.intercalate_cons_cons]

/-- Whatever is limited has its place below one path, and nothing else has. -/
theorem isLimited_iff_isPrefix {playsPayment playsLedger : Bool} {path : List Char}
    {route : Route} (routed : ofPath? playsPayment playsLedger path = some route) :
    route.isLimited = true ↔ "/api/v1/".toList <+: path := by
  unfold ofPath? at routed
  split at routed
  · rename_i cut
    cases routed
    rw [path_eq_of_pieces cut]
    decide
  · rename_i cut
    split at routed <;> cases routed
    exact iff_of_true rfl (isPrefix_of_pieces cut)
  · rename_i cut
    split at routed <;> cases routed
    exact iff_of_true rfl (isPrefix_of_pieces cut)
  · rename_i cut
    split at routed <;> cases routed
    exact iff_of_true rfl (isPrefix_of_pieces cut)
  · cases routed

end Route

namespace HttpResponse

theorem status_forMethod (response : HttpResponse) (method : String) :
    (response.forMethod method).status = response.status := by
  unfold forMethod
  split <;> rfl

theorem status_ofResult_ne {Value : Type} {encode : Value → Bytes}
    {result : Except ServiceError Value} (other : result ≠ .error .rateLimited) :
    (ofResult encode result).status ≠ 429 := by
  cases result with
  | ok value => exact (by decide : 200 ≠ 429)
  | error error =>
      intro refused
      exact other (congrArg _ (error.httpStatus_eq_iff.mp refused))

theorem status_ne_of_answer {Stage Value : Type} {encode : Value → Bytes}
    {call : Call Stage (Except ServiceError Value)} {response : HttpResponse}
    (other : call ≠ .answered (.error .rateLimited))
    (answered : call.answer?.map (ofResult encode) = some response) : response.status ≠ 429 := by
  obtain ⟨result, told, rfl⟩ := Option.map_eq_some_iff.mp answered
  apply status_ofResult_ne
  rintro rfl
  cases call with
  | running stage => cases told
  | answered answer => exact other (congrArg _ (Option.some.inj told))

end HttpResponse

namespace Gateway

variable {gateway : Gateway} {world : World} {request : HttpRequest} {fresh : FreshTrace}
  {route : Route} {response : HttpResponse}

theorem status_initiate_ne {settings : IntakeSettings}
    (answered : (initiate settings world request fresh).1 = some response) :
    response.status ≠ 429 := by
  unfold initiate at answered
  split at answered
  · cases answered
    exact (by decide : 400 ≠ 429)
  · rename_i payment _
    have other := world.initiatePayment_ne_rateLimited settings
      ⟨payment, request.context?.getD fresh.root, fresh.span⟩
    dsimp only at answered
    generalize world.initiatePayment settings
      ⟨payment, request.context?.getD fresh.root, fresh.span⟩ = result at other answered
    exact HttpResponse.status_ne_of_answer other answered

theorem status_details_ne (world : World) (payment : List Char) :
    (details world payment).status ≠ 429 := by
  unfold details
  split
  · exact (by decide : 400 ≠ 429)
  · exact HttpResponse.status_ofResult_ne (world.findPayment_ne_rateLimited _)

theorem status_balance_ne {lifetime : Nat} {account : List Char}
    (answered : (balance lifetime world account).1 = some response) : response.status ≠ 429 := by
  unfold balance at answered
  split at answered
  · cases answered
    exact (by decide : 400 ≠ 429)
  · rename_i id _
    have other := world.checkBalance_ne_rateLimited lifetime id
    generalize world.checkBalance lifetime id = result at other answered
    exact HttpResponse.status_ne_of_answer other answered

theorem status_serve_ne (answered : (gateway.serve world request fresh route).1 = some response) :
    response.status ≠ 429 := by
  unfold serve at answered
  split at answered
  · cases answered
    exact (by decide : 405 ≠ 429)
  · split at answered
    · cases answered
      exact (by decide : 200 ≠ 429)
    · exact status_initiate_ne answered
    · cases answered
      exact status_details_ne world _
    · exact status_balance_ne answered
    · cases answered
      exact (by decide : 404 ≠ 429)
    · cases answered
      exact (by decide : 404 ≠ 429)

def charged? (gateway : Gateway) (request : HttpRequest) : Option String :=
  ((gateway.route? request).filter Route.isLimited).map fun _ => request.clientKey

theorem charged?_eq_some_iff (gateway : Gateway) (request : HttpRequest) (client : String) :
    gateway.charged? request = some client ↔
      (gateway.route? request).isSome ∧ "/api/v1/".toList <+: request.path ∧
        request.clientKey = client := by
  rw [charged?, Option.map_eq_some_iff]
  constructor
  · rintro ⟨route, kept, rfl⟩
    obtain ⟨routed, limited⟩ := Option.filter_eq_some_iff.mp kept
    exact ⟨Option.isSome_of_eq_some routed, (Route.isLimited_iff_isPrefix routed).mp limited, rfl⟩
  · rintro ⟨routed, below, rfl⟩
    obtain ⟨route, routed⟩ := Option.isSome_iff_exists.mp routed
    have limited := (Route.isLimited_iff_isPrefix routed).mpr below
    exact ⟨route, Option.filter_eq_some_iff.mpr ⟨routed, limited⟩, rfl⟩

/-- What a gateway makes of a request: the response, and the gateway and the world after it. -/
inductive HandleCase (gateway : Gateway) (world : World) (request : HttpRequest)
    (fresh : FreshTrace) : Option HttpResponse → Gateway → World → Prop where
  | unrouted :
      gateway.route? request = none →
      HandleCase gateway world request fresh (some (.bare 404)) gateway world
  | free (route : Route) :
      gateway.route? request = some route → route.isLimited = false →
      HandleCase gateway world request fresh
        ((gateway.serve world request fresh route).1.map (·.forMethod request.method)) gateway
        (gateway.serve world request fresh route).2
  | refused (route : Route) :
      gateway.route? request = some route → route.isLimited = true →
      (gateway.limiter.allow request.clientKey world.now).1 = false →
      HandleCase gateway world request fresh
        (some ((refused route request.method).forMethod request.method))
        { gateway with limiter := (gateway.limiter.allow request.clientKey world.now).2 } world
  | admitted (route : Route) :
      gateway.route? request = some route → route.isLimited = true →
      (gateway.limiter.allow request.clientKey world.now).1 = true →
      HandleCase gateway world request fresh
        ((gateway.serve world request fresh route).1.map (·.forMethod request.method))
        { gateway with limiter := (gateway.limiter.allow request.clientKey world.now).2 }
        (gateway.serve world request fresh route).2

theorem handleCase (gateway : Gateway) (world : World) (request : HttpRequest)
    (fresh : FreshTrace) :
    HandleCase gateway world request fresh (gateway.handle world request fresh).1
      (gateway.handle world request fresh).2.1 (gateway.handle world request fresh).2.2 := by
  unfold handle
  cases routed : gateway.route? request with
  | none => exact .unrouted routed
  | some route =>
      dsimp only
      cases limited : route.isLimited with
      | false => exact .free route routed limited
      | true =>
          rw [if_pos rfl]
          cases admitted : (gateway.limiter.allow request.clientKey world.now).1 with
          | true => exact .admitted route routed limited admitted
          | false => exact .refused route routed limited admitted

/-- A response tells that a window is used up. -/
def refuses (response : Option HttpResponse) : Bool :=
  response.any fun response => response.status == 429

theorem refuses_serve (gateway : Gateway) (world : World) (request : HttpRequest)
    (fresh : FreshTrace) (route : Route) :
    refuses ((gateway.serve world request fresh route).1.map (·.forMethod request.method)) =
      false := by
  cases served : (gateway.serve world request fresh route).1 with
  | none => rfl
  | some response =>
      have other := status_serve_ne served
      rw [← HttpResponse.status_forMethod response request.method] at other
      simpa [refuses] using other

theorem refuses_refused (route : Route) (method : String) :
    refuses (some ((refused route method).forMethod method)) = true := by
  rw [refuses, Option.any_some, HttpResponse.status_forMethod]
  rfl

theorem charged?_eq_none_of_unrouted (unrouted : gateway.route? request = none) :
    gateway.charged? request = none := by
  rw [charged?, unrouted]
  rfl

theorem charged?_of_routed (routed : gateway.route? request = some route) :
    gateway.charged? request = if route.isLimited then some request.clientKey else none := by
  rw [charged?, routed]
  cases limited : route.isLimited <;> simp [Option.filter, limited]

/-- The limiter after a request: only a request that is charged is counted. -/
def counted (gateway : Gateway) (request : HttpRequest) (now : Nat) : Limiter :=
  match gateway.charged? request with
  | some client => (gateway.limiter.allow client now).2
  | none => gateway.limiter

/-- What a client that has used up its window is told; a response to `HEAD` has no body. -/
structure Refusal (request : HttpRequest) (response : HttpResponse) : Prop where
  status : response.status = 429
  body : response.body =
    if request.method = "HEAD" then [] else HttpResponse.envelope 4029 "rate limit exceeded" none

theorem refusal_refused (request : HttpRequest) (route : Route) :
    Refusal request ((refused route request.method).forMethod request.method) where
  status := by
    rw [HttpResponse.status_forMethod]
    rfl
  body := by
    unfold HttpResponse.forMethod
    split <;> rfl

theorem route?_health (path : request.path = "/health".toList) :
    gateway.route? request = some .health := by
  rw [route?, path]
  cases gateway.intake.isSome <;> cases gateway.inquiry.isSome <;> decide

theorem serve_health (gateway : Gateway) (world : World) (request : HttpRequest)
    (fresh : FreshTrace) :
    gateway.serve world request fresh .health =
      (some (if request.method ∈ Route.health.methods then health world else wrongMethod .health),
        world) := by
  unfold serve
  by_cases allowed : request.method ∈ Route.health.methods <;> simp [allowed]

namespace HandleCase

variable {response : Option HttpResponse} {after : Gateway} {left : World} {client : String}

theorem gateway_eq (handled : HandleCase gateway world request fresh response after left) :
    after = { gateway with limiter := gateway.counted request world.now } := by
  cases handled with
  | unrouted unrouted => rw [counted, charged?_eq_none_of_unrouted unrouted]
  | free route routed free => rw [counted, charged?_of_routed routed, free]; rfl
  | refused route routed limited _ | admitted route routed limited _ =>
      rw [counted, charged?_of_routed routed, if_pos limited]

/-- A request that is charged is refused exactly if the limiter does not admit it. -/
theorem refuses_of_charged
    (handled : HandleCase gateway world request fresh response after left)
    (charged : gateway.charged? request = some client) :
    refuses response = !(gateway.limiter.allow client world.now).1 := by
  cases handled with
  | unrouted unrouted =>
      rw [charged?_eq_none_of_unrouted unrouted] at charged
      cases charged
  | free route routed free =>
      rw [charged?_of_routed routed, free] at charged
      cases charged
  | refused route routed limited refused =>
      rw [charged?_of_routed routed, if_pos limited] at charged
      cases charged
      rw [refused, refuses_refused]
      rfl
  | admitted route routed limited admitted =>
      rw [charged?_of_routed routed, if_pos limited] at charged
      cases charged
      rw [admitted, refuses_serve]
      rfl

theorem of_refuses (handled : HandleCase gateway world request fresh response after left)
    (told : refuses response = true) :
    left = world ∧ gateway.charged? request = some request.clientKey ∧
      ∃ refusal, response = some refusal ∧ Refusal request refusal := by
  cases handled with
  | unrouted unrouted => cases told
  | free route routed free =>
      rw [refuses_serve] at told
      cases told
  | refused route routed limited refused =>
      rw [charged?_of_routed routed, if_pos limited]
      exact ⟨rfl, rfl, _, rfl, refusal_refused request route⟩
  | admitted route routed limited admitted =>
      rw [refuses_serve] at told
      cases told

theorem exists_serve (handled : HandleCase gateway world request fresh response after left)
    (charged : gateway.charged? request = some client) (letIn : refuses response = false) :
    ∃ route, gateway.route? request = some route ∧
      response =
        (gateway.serve world request fresh route).1.map (·.forMethod request.method) ∧
      left = (gateway.serve world request fresh route).2 := by
  cases handled with
  | unrouted unrouted =>
      rw [charged?_eq_none_of_unrouted unrouted] at charged
      cases charged
  | free route routed _ | admitted route routed _ _ => exact ⟨route, routed, rfl, rfl⟩
  | refused route routed limited refused =>
      rw [refuses_refused] at letIn
      cases letIn

theorem of_health (handled : HandleCase gateway world request fresh response after left)
    (path : request.path = "/health".toList) :
    left = world ∧ ∃ answer, response = some answer ∧
      answer.status = if request.method ∈ ["GET", "HEAD"] then 200 else 405 := by
  cases handled with
  | unrouted unrouted => cases unrouted.symm.trans (route?_health path)
  | refused route routed limited _ | admitted route routed limited _ =>
      cases routed.symm.trans (route?_health path)
      cases limited
  | free route routed _ =>
      cases routed.symm.trans (route?_health path)
      rw [serve_health]
      refine ⟨rfl, _, rfl, ?_⟩
      rw [HttpResponse.status_forMethod]
      split <;> rename_i allowed
      · exact (if_pos allowed).symm
      · exact (if_neg allowed).symm

end HandleCase

end Gateway

end Clearing
