import Clearing.Money.Amount
/-!
Orders to move money, and why the ledger refuses one.  A refusal is final,
unless it was the database behind the ledger that failed.
-/

namespace Clearing

/-- An instruction to move an amount from one account to another. -/
structure TransferOrder where
  /-- The payment that the order settles.  No payment is settled twice. -/
  id : String
  source : String
  destination : String
  amount : Decimal
  currency : Currency
deriving DecidableEq

inductive LedgerError where
  | sourceNotFound (account : String)
  | destinationNotFound (account : String)
  | insufficientFunds (available requested : Decimal)
  | currencyMismatch (account held requested : String)
  | invalidTransfer (reason : String)
  | previouslyRejected (reason : String)
  | database
deriving DecidableEq

namespace LedgerError

def code : LedgerError → String
  | .sourceNotFound _ => "FROM_ACCOUNT_NOT_FOUND"
  | .destinationNotFound _ => "TO_ACCOUNT_NOT_FOUND"
  | .insufficientFunds _ _ => "INSUFFICIENT_FUNDS"
  | .currencyMismatch _ _ _ => "CURRENCY_MISMATCH"
  | .invalidTransfer _ => "INVALID_TRANSFER"
  | .previouslyRejected _ => "PREVIOUSLY_REJECTED"
  | .database => "DATABASE_ERROR"

/-- The wording of an error that is not a failure of the database. -/
def message? : LedgerError → Option String
  | .sourceNotFound _ => some "from_account not found"
  | .destinationNotFound _ => some "to_account not found"
  | .insufficientFunds _ _ => some "insufficient funds"
  | .currencyMismatch account held requested =>
      some ("currency mismatch: account " ++ account ++ " holds " ++ held ++
        ", transfer is in " ++ requested)
  | .invalidTransfer reason => some ("invalid transfer: " ++ reason)
  | .previouslyRejected reason =>
      some ("payment previously rejected: " ++ reason)
  | .database => none

/-- A later attempt may succeed. -/
def isTransient (error : LedgerError) : Bool :=
  error == .database

/-- What is refused because the destination would hold too much. -/
def creditTooLarge : LedgerError :=
  .invalidTransfer "credit would exceed the maximum balance"

end LedgerError

/-- What an order has to satisfy whatever the accounts hold. -/
def TransferOrder.check (order : TransferOrder) : Except LedgerError Unit :=
  if Text.isBlankText order.id then
    .error (.invalidTransfer "payment_id is empty")
  else
    match Amount.ofDecimal order.amount order.currency with
    | .error error => .error (.invalidTransfer error.message)
    | .ok _ =>
        if order.source = order.destination then
          .error
            (.invalidTransfer "from_account and to_account cannot be the same")
        else
          .ok ()

end Clearing
