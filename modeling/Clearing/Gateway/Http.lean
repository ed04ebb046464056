import Clearing.Net.Address
import Clearing.Text.Bytes
import Clearing.Trace.Headers
/-!
Requests and responses of the hypertext transfer protocol, as far as the
gateway looks at them.
-/

namespace Clearing

structure HttpRequest where
  method : String
  /-- The path, and a query behind it. -/
  target : String
  headers : Headers
  body : Bytes
  /-- The address that the request came from. -/
  peer : Option SocketAddress
deriving DecidableEq

structure HttpResponse where
  status : Nat
  contentType : Option String
  /-- The methods that the path allows, if the method was none of them. -/
  allow : Option String
  body : Bytes
deriving DecidableEq

/-- A header value that can be read as text: visible ASCII, blanks and tabs. -/
def isVisible (value : String) : Bool :=
  value.toList.all fun character =>
    character == '\t' ||
      (decide (' ' ≤ character) && decide (character ≤ '~'))

namespace HttpRequest

def header? (request : HttpRequest) (name : String) : Option String :=
  (request.headers.get? name).filter isVisible

/-- What follows the scheme and the host of an absolute target. -/
def withoutHost (target : List Char) : List Char :=
  match target.span (· ≠ ':') with
  | (scheme, ':' :: '/' :: '/' :: rest) =>
      if scheme.contains '/' then
        target
      else
        match rest.dropWhile fun c => c != '/' && c != '?' && c != '#' with
        | '/' :: path => '/' :: path
        | others => '/' :: others
  | _ => target

def path (request : HttpRequest) : List Char :=
  (withoutHost request.target.toList).takeWhile fun character =>
    character != '?' && character != '#'

/-- The context that the request carries, if it is well formed. -/
def context? (request : HttpRequest) : Option TraceContext :=
  (request.header? TraceContext.headerName).bind TraceContext.parse

/-- The value of a header without white space, if anything is left. -/
def hop? (value : Option String) : Option String :=
  (value.map Text.trim).filter (· ≠ "")

/-- The first hop that a proxy noted. -/
def forwarded? (request : HttpRequest) : Option String :=
  hop? ((request.header? "x-forwarded-for").map fun value =>
    String.ofList (Text.firstPiece ',' value.toList))

/--
Whom the request is charged to: the first hop that a proxy noted, else the
real address that it noted, else the address that the request came from.
-/
def clientKey (request : HttpRequest) : String :=
  match request.forwarded? with
  | some hop => hop
  | none =>
      match hop? (request.header? "x-real-ip") with
      | some address => address
      | none =>
          match request.peer with
          | some peer => peer.address.toText
          | none => "unknown"

end HttpRequest

end Clearing
