import Clearing.Ledger.Accounts
import Clearing.Json.Scalar
/-!
Balances as they are cached and as they are reported.
-/

namespace Clearing

/-- A balance as the cache keeps it. -/
structure Snapshot where
  balance : Decimal
  currency : String
deriving DecidableEq

/-- A balance as it is reported. -/
structure BalanceView where
  account : String
  balance : Decimal
  currency : String
deriving DecidableEq

def Account.snapshot (account : Account) : Snapshot where
  balance := account.balance
  currency := account.currency

def Snapshot.view (snapshot : Snapshot) (account : String) : BalanceView where
  account := account
  balance := snapshot.balance
  currency := snapshot.currency

def Account.view (account : Account) : BalanceView :=
  account.snapshot.view account.id

namespace Snapshot

def fields : List Json.Field :=
  [⟨"balance", Decimal, Json.decimal⟩, ⟨"currency", String, Json.string⟩]

def ofRow (row : Json.Row fields) : Snapshot :=
  match row with
  | (balance, currency, _) => { balance, currency }

def decode (bytes : Bytes) : Except Json.Fault Snapshot :=
  (Json.decode (Json.record fields) bytes).map ofRow

def encode (snapshot : Snapshot) : Bytes :=
  Json.writeObject
    [("balance", Json.writeDecimal snapshot.balance),
      ("currency", Json.writeString snapshot.currency)]

end Snapshot

def BalanceView.encode (view : BalanceView) : Bytes :=
  Json.writeObject
    [("account_id", Json.writeString view.account),
      ("balance", Json.writeDecimal view.balance),
      ("currency", Json.writeString view.currency)]

end Clearing
