import Clearing.Ledger.Accounts
import Clearing.Proofs.Except
/-!
What a transfer can do.  The cases are those of the rules, in the order in
which the rules are tried; all that is proved about transfers rests on them.
-/

namespace Clearing

/-- The ledger refuses the order itself, for good. -/
def LedgerError.isRefusal : LedgerError → Bool
  | .sourceNotFound _ | .destinationNotFound _ | .insufficientFunds _ _
  | .currencyMismatch _ _ _ | .invalidTransfer _ => true
  | .previouslyRejected _ | .database => false

theorem LedgerError.isTransient_of_isRefusal
    {error : LedgerError} (refusal : error.isRefusal = true) :
    error.isTransient = false := by
  cases error <;> first | rfl | cases refusal

namespace TransferOrder

theorem isRefusal_of_check_eq_error
    {order : TransferOrder} {error : LedgerError}
    (malformed : order.check = .error error) :
    error.isRefusal = true := by
  simp only [check] at malformed
  split at malformed
  · cases malformed
    rfl
  · split at malformed
    · cases malformed
      rfl
    · split at malformed <;> cases malformed
      rfl

theorem check_eq_ok_iff (order : TransferOrder) :
    order.check = .ok () ↔
      Text.isBlankText order.id = false ∧
        (∃ amount, Amount.ofDecimal order.amount order.currency = .ok amount) ∧
        order.source ≠ order.destination := by
  simp only [check]
  cases Text.isBlankText order.id with
  | true => simp
  | false =>
      cases Amount.ofDecimal order.amount order.currency with
      | error error => simp
      | ok amount =>
          by_cases same : order.source = order.destination <;> simp [same]

theorem isRefusal_of_checkAgainst_eq_error
    {order : TransferOrder} {source? destination? : Option Account}
    {error : LedgerError}
    (refused : order.checkAgainst source? destination? = .error error) :
    error.isRefusal = true := by
  simp only [checkAgainst] at refused
  repeat' split at refused
  all_goals cases refused
  all_goals rfl

theorem checkAgainst_eq_ok_iff
    (order : TransferOrder) (source destination : Account) :
    order.checkAgainst (some source) (some destination) = .ok () ↔
      source.currency = order.currency.code ∧
        ¬ source.balance < order.amount ∧
        destination.currency = order.currency.code ∧
        ∃ credited, destination.balance.add? order.amount = some credited ∧
          ¬ maximumAmount < credited := by
  simp only [checkAgainst]
  by_cases sourceHolds : source.currency = order.currency.code
  · by_cases covered : source.balance < order.amount
    · simp [sourceHolds, covered]
    · by_cases destinationHolds : destination.currency = order.currency.code
      · cases destination.balance.add? order.amount with
        | none => simp [sourceHolds, covered, destinationHolds]
        | some credited =>
            by_cases exceeded : maximumAmount < credited <;>
              simp [sourceHolds, covered, destinationHolds, exceeded]
      · simp [sourceHolds, covered, destinationHolds]
  · simp [sourceHolds]

end TransferOrder

def Account.withBalance (account : Account) (balance : Decimal) : Account :=
  { account with
    balance := balance
    version := account.version + 1 }

@[simp]
theorem Account.withBalance_balance (account : Account) (balance : Decimal) :
    (account.withBalance balance).balance = balance :=
  rfl

@[simp]
theorem Account.withBalance_currency (account : Account) (balance : Decimal) :
    (account.withBalance balance).currency = account.currency :=
  rfl

@[simp]
theorem Account.withBalance_version (account : Account) (balance : Decimal) :
    (account.withBalance balance).version = account.version + 1 :=
  rfl

structure Movement (order : TransferOrder) where
  source : Account
  destination : Account
  debited : Decimal
  credited : Decimal
  sourceCurrency : source.currency = order.currency.code
  destinationCurrency : destination.currency = order.currency.code
  covered : ¬ source.balance < order.amount
  debit : source.balance.sub? order.amount = some debited
  credit : destination.balance.add? order.amount = some credited
  capped : ¬ maximumAmount < credited

namespace Movement

variable {order : TransferOrder} (movement : Movement order)

def sourceAfter : Account :=
  movement.source.withBalance movement.debited

def destinationAfter : Account :=
  movement.destination.withBalance movement.credited

end Movement

namespace Ledger

def called (ledger : Ledger) : Ledger :=
  { ledger with calls := ledger.calls + 1 }

def refused (ledger : Ledger) (order : TransferOrder) (error : LedgerError) :
    Ledger :=
  { ledger.called with
    decisions := ledger.decisions.insert order.id (.rejected error.code) }

/-- The ledger after an amount has been moved. -/
def moving (ledger : Ledger) {order : TransferOrder} (movement : Movement order) :
    Ledger :=
  { ledger.called with
    accounts := (ledger.accounts.insert movement.source.id
      movement.sourceAfter).insert movement.destination.id
      movement.destinationAfter
    decisions := ledger.decisions.insert order.id .applied }

theorem exists_movement_of_moved
    {ledger : Ledger} {order : TransferOrder} {after : Account × Account}
    (moved : ledger.moved order = .ok after) :
    ∃ movement : Movement order,
      ledger.account? order.source = some movement.source ∧
      ledger.account? order.destination = some movement.destination ∧
      after = (movement.sourceAfter, movement.destinationAfter) := by
  simp only [Ledger.moved, bind_eq_ok_iff] at moved
  obtain ⟨_, passed, moved⟩ := moved
  cases sourceFound : ledger.account? order.source with
  | none =>
      rw [sourceFound] at moved
      cases moved
  | some source =>
      cases destinationFound : ledger.account? order.destination with
      | none =>
          rw [sourceFound, destinationFound] at moved
          cases moved
      | some destination =>
          rw [sourceFound, destinationFound] at moved passed
          obtain ⟨sourceCurrency, covered, destinationCurrency, credited, credit,
            capped⟩ := (order.checkAgainst_eq_ok_iff source destination).mp passed
          simp only [credit] at moved
          cases debit : source.balance.sub? order.amount with
          | none =>
              rw [debit] at moved
              cases moved
          | some debited =>
              rw [debit] at moved
              cases moved
              exact ⟨⟨source, destination, debited, credited, sourceCurrency,
                destinationCurrency, covered, debit, credit, capped⟩, rfl, rfl, rfl⟩

theorem isRefusal_of_moved_eq_error
    {ledger : Ledger} {order : TransferOrder} {error : LedgerError}
    (refused : ledger.moved order = .error error) :
    error.isRefusal = true := by
  simp only [Ledger.moved] at refused
  cases passed : order.checkAgainst (ledger.account? order.source)
      (ledger.account? order.destination) with
  | error found =>
      rw [passed] at refused
      cases refused
      exact TransferOrder.isRefusal_of_checkAgainst_eq_error passed
  | ok =>
      simp only [passed, bind, Except.bind] at refused
      repeat' split at refused
      all_goals cases refused
      all_goals rfl

/-- What asking for a transfer comes to: an answer and the ledger after it. -/
inductive TransferCase (ledger : Ledger) (order : TransferOrder) :
    Except LedgerError TransferOutcome → Ledger → Prop where
  | malformed (error : LedgerError) :
      order.check = .error error →
      TransferCase ledger order (.error error) ledger.called
  | offline :
      order.check = .ok () →
      ledger.online = false →
      TransferCase ledger order (.error .database) ledger.called
  | decided (decision : Decision) :
      order.check = .ok () →
      ledger.online = true →
      ledger.decisions.get? order.id = some decision →
      TransferCase ledger order decision.replay ledger.called
  | refused (error : LedgerError) :
      order.check = .ok () →
      ledger.online = true →
      ledger.decisions.get? order.id = none →
      error.isRefusal = true →
      ledger.moved order = .error error →
      TransferCase ledger order (.error error) (ledger.refused order error)
  | applied (movement : Movement order) :
      order.check = .ok () →
      ledger.online = true →
      ledger.decisions.get? order.id = none →
      ledger.account? order.source = some movement.source →
      ledger.account? order.destination = some movement.destination →
      TransferCase ledger order
        (.ok (.applied movement.sourceAfter movement.destinationAfter))
        (ledger.moving movement)

/-- What is tried in turn: the order itself, the database, the decision there is. -/
theorem transfer_eq (ledger : Ledger) (order : TransferOrder) :
    ledger.transfer order =
      match order.check, ledger.online, ledger.decisions.get? order.id with
      | .error error, _, _ => (.error error, ledger.called)
      | .ok (), false, _ => (.error .database, ledger.called)
      | .ok (), true, some decision => (decision.replay, ledger.called)
      | .ok (), true, none => ledger.called.decideOrder order := by
  unfold transfer called
  dsimp only
  cases order.check with
  | error error => rfl
  | ok =>
      cases available : ledger.online with
      | false => rfl
      | true => cases ledger.decisions.get? order.id <;> rfl

theorem transfer_of_undecided
    {ledger : Ledger} {order : TransferOrder} (shape : order.check = .ok ())
    (available : ledger.online = true)
    (undecided : ledger.decisions.get? order.id = none) :
    ledger.transfer order = ledger.called.decideOrder order := by
  rw [transfer_eq, shape, available, undecided]

theorem transferCase
    {ledger after : Ledger} {order : TransferOrder}
    {answer : Except LedgerError TransferOutcome}
    (asked : ledger.transfer order = (answer, after)) :
    TransferCase ledger order answer after := by
  suffices step : TransferCase ledger order (ledger.transfer order).1
      (ledger.transfer order).2 by
    rw [asked] at step
    exact step
  rw [transfer_eq]
  cases shape : order.check with
  | error error => exact .malformed error shape
  | ok =>
      cases available : ledger.online with
      | false => exact .offline shape available
      | true =>
          cases held : ledger.decisions.get? order.id with
          | some decision => exact .decided decision shape available held
          | none =>
              have same : ledger.called.moved order = ledger.moved order := rfl
              dsimp only
              rw [decideOrder, same]
              cases moved : ledger.moved order with
              | error error =>
                  exact .refused error shape available held
                    (isRefusal_of_moved_eq_error moved) moved
              | ok after =>
                  obtain ⟨movement, source, destination, rfl⟩ :=
                    exists_movement_of_moved moved
                  exact .applied movement shape available held source destination

theorem online_transfer {ledger after : Ledger} {order : TransferOrder}
    {answer : Except LedgerError TransferOutcome}
    (asked : ledger.transfer order = (answer, after)) : after.online = ledger.online := by
  cases transferCase asked <;> rfl

end Ledger

end Clearing
