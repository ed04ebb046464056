import Clearing.Account.Id
import Clearing.Json.Scalar
import Clearing.Money.Amount
/-!
Requests to make a payment.  A request is checked field by field in a fixed
order, and the first check that fails is reported.
-/

namespace Clearing

/-- What a client asks for. -/
structure PaymentRequest where
  id : String
  source : String
  destination : String
  amount : Decimal
  currency : String
  idempotencyKey : String
deriving DecidableEq

/-- The side of a payment on which an account stands. -/
inductive AccountRole where
  | source
  | destination
deriving DecidableEq

def AccountRole.field : AccountRole → String
  | .source => "from_account"
  | .destination => "to_account"

inductive RequestError where
  | missingId
  | longId
  | missingKey
  | money (error : MoneyError)
  | badAccount (role : AccountRole) (value : String)
  | sameAccount
deriving DecidableEq

/-- The most characters that the id of a payment may have. -/
def maximumIdLength : Nat := 128

def RequestError.message : RequestError → String
  | .missingId => "payment_id is required"
  | .longId =>
      "payment_id exceeds " ++ toString maximumIdLength ++ " characters"
  | .missingKey => "idempotency_key is required"
  | .money error => error.message
  | .badAccount role value =>
      "invalid " ++ role.field ++ " format: '" ++ value ++ "' (expected UUID)"
  | .sameAccount => "from_account and to_account cannot be the same"

/-- A request that passed every check. -/
structure ValidPayment where
  id : String
  source : AccountId
  destination : AccountId
  currency : Currency
  amount : Amount currency
  idempotencyKey : String
deriving DecidableEq

def AccountRole.parse (role : AccountRole) (text : String) :
    Except RequestError AccountId :=
  match AccountId.parse text with
  | some account => .ok account
  | none => .error (.badAccount role text)

namespace PaymentRequest

def checkId (id : String) : Except RequestError Unit :=
  if id = "" then
    .error .missingId
  else if maximumIdLength < id.length then
    .error .longId
  else
    .ok ()

def checkKey (key : String) : Except RequestError Unit :=
  if key = "" then .error .missingKey else .ok ()

/-- The sign of an amount is checked before its currency is known. -/
def checkSign (amount : Decimal) : Except RequestError Unit :=
  if amount ≤ .zero then .error (.money .notPositive) else .ok ()

/-- Check a request and take the white space off its id and its key. -/
def validate (request : PaymentRequest) : Except RequestError ValidPayment := do
  let id := Text.trim request.id
  let idempotencyKey := Text.trim request.idempotencyKey
  checkId id
  checkKey idempotencyKey
  checkSign request.amount
  let currency ← (Currency.parse request.currency).mapError .money
  let amount ← (Amount.ofDecimal request.amount currency).mapError .money
  let source ← AccountRole.source.parse request.source
  let destination ← AccountRole.destination.parse request.destination
  if source.sameAccount destination then
    throw .sameAccount
  return { id, source, destination, amount, currency, idempotencyKey }

def fields : List Json.Field :=
  [⟨"payment_id", String, Json.string⟩, ⟨"from_account", String, Json.string⟩,
    ⟨"to_account", String, Json.string⟩, ⟨"amount", Decimal, Json.decimal⟩,
    ⟨"currency", String, Json.string⟩,
    ⟨"idempotency_key", String, Json.string⟩]

def ofRow (row : Json.Row fields) : PaymentRequest :=
  match row with
  | (id, source, destination, amount, currency, idempotencyKey, _) =>
      { id, source, destination, amount, currency, idempotencyKey }

def decode (bytes : Bytes) : Except Json.Fault PaymentRequest :=
  (Json.decode (Json.record fields) bytes).map ofRow

def encode (request : PaymentRequest) : Bytes :=
  Json.writeObject
    [("payment_id", Json.writeString request.id),
      ("from_account", Json.writeString request.source),
      ("to_account", Json.writeString request.destination),
      ("amount", Json.writeDecimal request.amount),
      ("currency", Json.writeString request.currency),
      ("idempotency_key", Json.writeString request.idempotencyKey)]

end PaymentRequest

end Clearing
