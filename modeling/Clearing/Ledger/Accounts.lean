import Clearing.Ledger.Order
import Clearing.Table
/-!
The ledger: accounts with their balances, and for every payment that reached a
decision, what was decided.  A transfer is applied at most once per payment,
and a rejected payment stays rejected.
-/

namespace Clearing

/--
A row of the ledger.  The moments at which the row was made and last changed are left
out: a transfer writes them, but no answer, check or later transfer depends on them.
-/
structure Account where
  id : String
  balance : Decimal
  /-- The code of the currency that the account holds. -/
  currency : String
  /-- One more than the number of transfers applied to the account. -/
  version : Nat
deriving DecidableEq

/-- What the ledger decided about a payment. -/
inductive Decision where
  | applied
  | rejected (code : String)
deriving DecidableEq

inductive TransferOutcome where
  /-- The two accounts after the transfer. -/
  | applied (source destination : Account)
  /-- An earlier order of the same payment was applied. -/
  | alreadySettled
deriving DecidableEq

def TransferOutcome.name : TransferOutcome → String
  | .applied _ _ => "APPLIED"
  | .alreadySettled => "ALREADY_SETTLED"

namespace Decision

/-- The name under which the decision to apply an order is stored. -/
def appliedName : String := "APPLIED"

/-- Every other stored name is the code of a rejection. -/
def ofName (name : String) : Decision :=
  if name = appliedName then .applied else .rejected name

/-- The answer to a later order of a payment that was decided. -/
def replay : Decision → Except LedgerError TransferOutcome
  | .applied => .ok .alreadySettled
  | .rejected code => .error (.previouslyRejected code)

end Decision

/--
What an order has to satisfy given the accounts that it names.  A missing
destination is no matter here: it is noticed when the amount is credited.
-/
def TransferOrder.checkAgainst (order : TransferOrder)
    (source destination : Option Account) : Except LedgerError Unit :=
  match source with
  | none => .error (.sourceNotFound order.source)
  | some source =>
      if source.currency ≠ order.currency.code then
        .error
          (.currencyMismatch source.id source.currency order.currency.code)
      else if source.balance < order.amount then
        .error (.insufficientFunds source.balance order.amount)
      else
        match destination with
        | none => .ok ()
        | some destination =>
            if destination.currency ≠ order.currency.code then
              .error
                (.currencyMismatch destination.id destination.currency
                  order.currency.code)
            else
              match destination.balance.add? order.amount with
              | some credited =>
                  if maximumAmount < credited then
                    .error .creditTooLarge
                  else
                    .ok ()
              | none => .error .creditTooLarge

structure Ledger where
  accounts : Table String Account
  decisions : Table String Decision
  /-- The database behind the ledger answers. -/
  online : Bool
  /-- The number of transfers that were asked for. -/
  calls : Nat

namespace Ledger

def empty : Ledger where
  accounts := .empty
  decisions := .empty
  online := true
  calls := 0

/-- Open an account, in place of any that has the same id. -/
def openAccount (ledger : Ledger) (id : String) (currency : Currency)
    (balance : Decimal) : Ledger :=
  let account : Account :=
    { id, balance
      currency := currency.code
      version := 1 }
  { ledger with accounts := ledger.accounts.insert id account }

def account? (ledger : Ledger) (id : String) : Option Account :=
  ledger.accounts.get? id

/-- Look an account up, which needs the database. -/
def read (ledger : Ledger) (id : String) : Except LedgerError (Option Account) :=
  if ledger.online then .ok (ledger.account? id) else .error .database

/-- The two accounts of an order after its amount has been moved. -/
def moved (ledger : Ledger) (order : TransferOrder) :
    Except LedgerError (Account × Account) := do
  let source? := ledger.account? order.source
  let destination? := ledger.account? order.destination
  order.checkAgainst source? destination?
  match source?, destination? with
  | none, _ => throw (.sourceNotFound order.source)
  | some _, none => throw (.destinationNotFound order.destination)
  | some source, some destination =>
      match source.balance.sub? order.amount,
        destination.balance.add? order.amount with
      | some debited, some credited =>
          .ok
            ({ source with
                balance := debited
                version := source.version + 1 },
              { destination with
                balance := credited
                version := destination.version + 1 })
      | _, _ => throw .creditTooLarge

/-- Decide an order of a payment that has not been decided. -/
def decideOrder (ledger : Ledger) (order : TransferOrder) :
    Except LedgerError TransferOutcome × Ledger :=
  match ledger.moved order with
  | .error error =>
      (.error error,
        { ledger with
          decisions :=
            ledger.decisions.insert order.id (.rejected error.code) })
  | .ok (source, destination) =>
      (.ok (.applied source destination),
        { ledger with
          accounts := (ledger.accounts.insert source.id source).insert
            destination.id destination
          decisions := ledger.decisions.insert order.id .applied })

/-- Carry out an order, once per payment. -/
def transfer (ledger : Ledger) (order : TransferOrder) :
    Except LedgerError TransferOutcome × Ledger :=
  let called := { ledger with calls := ledger.calls + 1 }
  match order.check with
  | .error error => (.error error, called)
  | .ok () =>
      if called.online then
        match called.decisions.get? order.id with
        | some decision => (decision.replay, called)
        | none => called.decideOrder order
      else
        (.error .database, called)

end Ledger

/--
Provision an account in the database.  A negative balance is refused before
the database is asked.
-/
def checkOpening (balance : Decimal) : Except LedgerError Unit :=
  if balance < .zero then
    .error (.invalidTransfer "initial balance cannot be negative")
  else
    .ok ()

end Clearing
