import Clearing.Proofs.Ledger.Transfer
import Clearing.Proofs.Money.Amount
/-!
Histories of a ledger: accounts are opened, orders are carried out or refused,
and the database comes and goes.  A ledger is solvent when every account that
it holds could have been opened with its balance.
-/

namespace Clearing

structure Opening where
  id : String
  currency : Currency
  balance : Decimal
  nonneg : Decimal.zero ≤ balance := by decide
  le_maximum : balance ≤ maximumAmount := by decide
  decimals_le : balance.significantScale ≤ balanceDecimals := by decide

inductive LedgerCall where
  | transfer (order : TransferOrder)
  /-- The database is lost or comes back. -/
  | setOnline (online : Bool)
deriving DecidableEq

inductive LedgerEvent where
  | call (call : LedgerCall)
  | openAccount (opening : Opening)

/-- An account that may lie under an id, with a balance it may be opened with. -/
structure Account.Solvent (account : Account) (id : String) : Prop where
  id_eq : account.id = id
  nonneg : Decimal.zero ≤ account.balance
  le_maximum : account.balance ≤ maximumAmount
  decimals_le : account.balance.significantScale ≤ balanceDecimals

namespace Ledger

def Solvent (ledger : Ledger) : Prop :=
  ∀ id account, ledger.account? id = some account → account.Solvent id

def perform (ledger : Ledger) : LedgerCall → Ledger
  | .transfer order => (ledger.transfer order).2
  | .setOnline online => { ledger with online := online }

def apply (ledger : Ledger) : LedgerEvent → Ledger
  | .call call => ledger.perform call
  | .openAccount opening =>
      ledger.openAccount opening.id opening.currency opening.balance

def afterCalls (ledger : Ledger) (calls : List LedgerCall) : Ledger :=
  calls.foldl perform ledger

def after (ledger : Ledger) (events : List LedgerEvent) : Ledger :=
  events.foldl apply ledger

/-- The order that a call carries out, if it carries one out. -/
def settles? (ledger : Ledger) : LedgerCall → Option TransferOrder
  | .transfer order =>
      match (ledger.transfer order).1 with
      | .ok (.applied _ _) => some order
      | .ok .alreadySettled | .error _ => none
  | .setOnline _ => none

/-- The orders that are carried out in a sequence of calls. -/
def settledOrders (ledger : Ledger) : List LedgerCall → List TransferOrder
  | [] => []
  | call :: rest =>
      (ledger.settles? call).toList ++ (ledger.perform call).settledOrders rest

theorem after_append (ledger : Ledger) (first second : List LedgerEvent) :
    ledger.after (first ++ second) = (ledger.after first).after second :=
  List.foldl_append

theorem solvent_empty : empty.Solvent := by
  intro id account found
  cases found

theorem Solvent.openAccount {ledger : Ledger} (solvent : ledger.Solvent)
    (opening : Opening) :
    (ledger.apply (.openAccount opening)).Solvent := by
  intro id account found
  simp only [apply, Ledger.openAccount, account?, Table.get?_insert] at found
  split at found
  · rename_i same
    cases found
    exact ⟨same.symm, opening.nonneg, opening.le_maximum, opening.decimals_le⟩
  · exact solvent id account found

end Ledger

theorem TransferOrder.amount_of_check_eq_ok
    {order : TransferOrder} (wellFormed : order.check = .ok ()) :
    Decimal.zero < order.amount ∧
      order.amount.significantScale ≤ balanceDecimals ∧
      order.amount ≤ maximumAmount :=
  (Amount.exists_ofDecimal_eq_ok_iff order.amount order.currency).mp
    (order.check_eq_ok_iff.mp wellFormed).2.1

/-- The two results of moving an amount are exact. -/
structure ExactMovement (order : TransferOrder) (source destination : Account) :
    Prop where
  debit : ∃ debited, source.balance.sub? order.amount = some debited ∧
    debited.value = source.balance.value - order.amount.value
  credit : ∃ credited, destination.balance.add? order.amount = some credited ∧
    credited.value = destination.balance.value + order.amount.value

theorem exactMovement_of_solvent
    {order : TransferOrder} (wellFormed : order.check = .ok ())
    {source destination : Account} {sourceId destinationId : String}
    (sourceSolvent : source.Solvent sourceId)
    (destinationSolvent : destination.Solvent destinationId) :
    ExactMovement order source destination := by
  obtain ⟨positive, decimals, bounded⟩ := order.amount_of_check_eq_ok wellFormed
  have amountWhole := (order.amount.significantScale_le_iff _).mp decimals
  rw [Decimal.lt_iff_value_lt, Decimal.value_zero] at positive
  rw [Decimal.le_iff_value_le] at bounded
  have amountBound : |order.amount.value| ≤ maximumAmount.value := by
    rwa [abs_of_pos positive]
  have balanceBound {account : Account} {id : String} (solvent : account.Solvent id) :
      |account.balance.value| ≤ maximumAmount.value := by
    have nonneg := solvent.nonneg
    rw [Decimal.le_iff_value_le, Decimal.value_zero] at nonneg
    rw [abs_of_nonneg nonneg, ← Decimal.le_iff_value_le]
    exact solvent.le_maximum
  constructor
  · have whole := (source.balance.significantScale_le_iff _).mp
      sourceSolvent.decimals_le
    apply Decimal.sub?_exact whole amountWhole
    rw [sub_eq_add_neg]
    exact abs_add_lt_bound (balanceBound sourceSolvent) (by rwa [abs_neg])
  · have whole := (destination.balance.significantScale_le_iff _).mp
      destinationSolvent.decimals_le
    exact Decimal.add?_exact whole amountWhole
      (abs_add_lt_bound (balanceBound destinationSolvent) amountBound)

end Clearing
