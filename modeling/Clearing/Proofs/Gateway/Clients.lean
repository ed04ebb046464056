import Clearing.Gateway.Http
import Clearing.Proofs.Net.Address
/-!
Clients.  A request is charged to the first hop that a proxy noted, else to the address that a
proxy noted, else to the address that it came from, whatever the service there.  A header that
cannot be read as text says nothing.
-/

namespace Clearing

/-- Where a request is taken to come from. -/
inductive ClientOrigin where
  /-- A proxy noted the hops of the request, of which this is the first. -/
  | forwarded (hop : String)
  /-- A proxy noted the address and no hop. -/
  | proxied (address : String)
  | peer (address : IpAddress)
  | unknown
deriving DecidableEq

/-- What the limiter knows a client by. -/
def ClientOrigin.key : ClientOrigin → String
  | .forwarded text | .proxied text => text
  | .peer address => address.toText
  | .unknown => "unknown"

namespace HttpRequest

/-- What stands in front of the first comma. -/
def firstHop (value : String) : String :=
  String.ofList (value.toList.takeWhile (· ≠ ','))

/-- Of the first header of a name, which can be read, a part is this text without its blanks. -/
structure Shows (request : HttpRequest) (name : String) (part : String → String)
    (text : String) : Prop where
  readable : ∃ value, request.headers.get? name = some value ∧ isVisible value = true ∧
    Text.trim (part value) = text
  present : text ≠ ""

/-- The header of the hops, and of them the first. -/
def ShowsHop (request : HttpRequest) (hop : String) : Prop :=
  request.Shows "x-forwarded-for" firstHop hop

/-- The header of the address, all of it. -/
def ShowsAddress (request : HttpRequest) (address : String) : Prop :=
  request.Shows "x-real-ip" id address

/-- What is looked at later counts only if nothing is found before. -/
inductive ComesFrom (request : HttpRequest) : ClientOrigin → Prop where
  | forwarded (hop : String) :
      request.ShowsHop hop → ComesFrom request (.forwarded hop)
  | proxied (address : String) :
      (∀ hop, ¬ request.ShowsHop hop) → request.ShowsAddress address →
      ComesFrom request (.proxied address)
  | peer (peer : SocketAddress) :
      (∀ hop, ¬ request.ShowsHop hop) → (∀ address, ¬ request.ShowsAddress address) →
      request.peer = some peer → ComesFrom request (.peer peer.address)
  | unknown :
      (∀ hop, ¬ request.ShowsHop hop) → (∀ address, ¬ request.ShowsAddress address) →
      request.peer = none → ComesFrom request .unknown

variable {request : HttpRequest} {origin : ClientOrigin}

theorem header?_eq_some_iff (request : HttpRequest) (name value : String) :
    request.header? name = some value ↔
      request.headers.get? name = some value ∧ isVisible value = true := by
  rw [header?, Option.filter_eq_some_iff]

theorem hop?_eq_some_iff (value? : Option String) (text : String) :
    hop? value? = some text ↔
      (∃ value, value? = some value ∧ Text.trim value = text) ∧ text ≠ "" := by
  rw [hop?, Option.filter_eq_some_iff, Option.map_eq_some_iff, decide_eq_true_eq]

theorem hop?_map_header?_eq_some_iff (request : HttpRequest) (name : String)
    (part : String → String) (text : String) :
    hop? ((request.header? name).map part) = some text ↔ request.Shows name part text := by
  rw [hop?_eq_some_iff]
  simp only [Option.map_eq_some_iff, header?_eq_some_iff]
  constructor
  · rintro ⟨⟨_, ⟨value, ⟨found, visible⟩, rfl⟩, trimmed⟩, present⟩
    exact ⟨⟨value, found, visible, trimmed⟩, present⟩
  · rintro ⟨⟨value, found, visible, trimmed⟩, present⟩
    exact ⟨⟨_, ⟨value, ⟨found, visible⟩, rfl⟩, trimmed⟩, present⟩

theorem forwarded?_eq_some_iff (hop : String) :
    request.forwarded? = some hop ↔ request.ShowsHop hop :=
  hop?_map_header?_eq_some_iff request "x-forwarded-for" firstHop hop

theorem address?_eq_some_iff (address : String) :
    hop? (request.header? "x-real-ip") = some address ↔ request.ShowsAddress address := by
  rw [ShowsAddress, ← hop?_map_header?_eq_some_iff, Option.map_id, id]

/-- Every request comes from somewhere, and is charged to what that is known by. -/
theorem exists_comesFrom (request : HttpRequest) :
    ∃ origin, request.ComesFrom origin ∧ request.clientKey = origin.key := by
  unfold clientKey
  cases noted : request.forwarded? with
  | some hop => exact ⟨_, .forwarded hop ((forwarded?_eq_some_iff hop).mp noted), rfl⟩
  | none =>
      have hopless (hop : String) : ¬ request.ShowsHop hop := by
        rw [← forwarded?_eq_some_iff, noted]
        nofun
      cases address : hop? (request.header? "x-real-ip") with
      | some text =>
          exact ⟨_, .proxied text hopless ((address?_eq_some_iff text).mp address), rfl⟩
      | none =>
          have unnoted (text : String) : ¬ request.ShowsAddress text := by
            rw [← address?_eq_some_iff, address]
            nofun
          cases met : request.peer with
          | some peer => exact ⟨_, .peer peer hopless unnoted met, rfl⟩
          | none => exact ⟨_, .unknown hopless unnoted met, rfl⟩

theorem Shows.unique {name : String} {part : String → String} {first second : String}
    (one : request.Shows name part first) (other : request.Shows name part second) :
    first = second := by
  obtain ⟨⟨value, found, _, rfl⟩, _⟩ := one
  obtain ⟨⟨_, again, _, rfl⟩, _⟩ := other
  rw [Option.some.inj (found.symm.trans again)]

theorem ComesFrom.unique {first second : ClientOrigin} (one : request.ComesFrom first)
    (other : request.ComesFrom second) : first = second := by
  cases one with
  | forwarded hop shown =>
      cases other with
      | forwarded _ again => rw [Shows.unique shown again]
      | proxied _ hopless _ | peer _ hopless _ _ | unknown hopless _ _ =>
          exact absurd shown (hopless hop)
  | proxied address hopless shown =>
      cases other with
      | forwarded hop again => exact absurd again (hopless hop)
      | proxied _ _ again => rw [Shows.unique shown again]
      | peer _ _ unnoted _ | unknown _ unnoted _ => exact absurd shown (unnoted address)
  | peer peer hopless unnoted met =>
      cases other with
      | forwarded hop again => exact absurd again (hopless hop)
      | proxied address _ again => exact absurd again (unnoted address)
      | peer _ _ _ again => rw [Option.some.inj (met.symm.trans again)]
      | unknown _ _ none => cases met.symm.trans none
  | unknown hopless unnoted none =>
      cases other with
      | forwarded hop again => exact absurd again (hopless hop)
      | proxied address _ again => exact absurd again (unnoted address)
      | peer _ _ _ met => cases met.symm.trans none
      | unknown _ _ _ => rfl

theorem ComesFrom.clientKey_eq (origin_eq : request.ComesFrom origin) :
    request.clientKey = origin.key := by
  obtain ⟨found, from_found, key_eq⟩ := request.exists_comesFrom
  rw [key_eq, from_found.unique origin_eq]

end HttpRequest

end Clearing
