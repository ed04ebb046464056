import Clearing.Proofs.Ledger.History
import Clearing.Proofs.Table
/-!
Transfers conserve money.  Whatever is asked of a ledger, its accounts stay
solvent, and each of them moves by the orders that were carried out and by
nothing else.
-/

namespace Clearing

def creditedTo (orders : List TransferOrder) (id : String) : Rat :=
  (orders.map fun order =>
    if order.destination = id then order.amount.value else 0).sum

def debitedFrom (orders : List TransferOrder) (id : String) : Rat :=
  (orders.map fun order =>
    if order.source = id then order.amount.value else 0).sum

def touching (orders : List TransferOrder) (id : String) : Nat :=
  orders.countP fun order => order.source = id ∨ order.destination = id

/-- An account is what orders have made of an earlier one. -/
structure Account.Follows (before after : Account)
    (orders : List TransferOrder) : Prop where
  id : after.id = before.id
  currency : after.currency = before.currency
  balance : after.balance.value =
    before.balance.value + creditedTo orders before.id -
      debitedFrom orders before.id
  version : after.version = before.version + touching orders before.id

theorem Account.Follows.refl (account : Account) : account.Follows account [] :=
  ⟨rfl, rfl, by simp [creditedTo, debitedFrom], rfl⟩

theorem Account.Follows.trans
    {first second third : Account} {early late : List TransferOrder}
    (earlier : first.Follows second early) (later : second.Follows third late) :
    first.Follows third (early ++ late) where
  id := later.id.trans earlier.id
  currency := later.currency.trans earlier.currency
  balance := by
    have credits : creditedTo (early ++ late) first.id =
        creditedTo early first.id + creditedTo late first.id := by
      simp [creditedTo]
    have debits : debitedFrom (early ++ late) first.id =
        debitedFrom early first.id + debitedFrom late first.id := by
      simp [debitedFrom]
    rw [later.balance, earlier.balance, earlier.id, credits, debits]
    ring
  version := by
    have counts : touching (early ++ late) first.id =
        touching early first.id + touching late first.id :=
      List.countP_append
    rw [later.version, earlier.version, earlier.id, counts, Nat.add_assoc]

namespace Movement

variable {order : TransferOrder} (movement : Movement order)

theorem values_after
    (wellFormed : order.check = .ok ())
    (sourceSolvent : movement.source.Solvent order.source)
    (destinationSolvent : movement.destination.Solvent order.destination) :
    movement.debited.value =
        movement.source.balance.value - order.amount.value ∧
      movement.credited.value =
        movement.destination.balance.value + order.amount.value := by
  obtain ⟨⟨debited, debit, debitValue⟩, ⟨credited, credit, creditValue⟩⟩ :=
    exactMovement_of_solvent wellFormed sourceSolvent destinationSolvent
  rw [movement.debit] at debit
  rw [movement.credit] at credit
  cases debit
  cases credit
  exact ⟨debitValue, creditValue⟩

theorem solvent_sourceAfter
    (wellFormed : order.check = .ok ())
    (sourceSolvent : movement.source.Solvent order.source)
    (destinationSolvent : movement.destination.Solvent order.destination) :
    movement.sourceAfter.Solvent order.source := by
  obtain ⟨positive, decimals, _⟩ := order.amount_of_check_eq_ok wellFormed
  obtain ⟨value, _⟩ :=
    movement.values_after wellFormed sourceSolvent destinationSolvent
  have covered := movement.covered
  have bounded := sourceSolvent.le_maximum
  rw [Decimal.lt_iff_value_lt, Decimal.value_zero] at positive
  rw [Decimal.lt_iff_value_lt, not_lt] at covered
  rw [Decimal.le_iff_value_le] at bounded
  refine ⟨sourceSolvent.id_eq, ?_, ?_, ?_⟩
  · rw [Decimal.le_iff_value_le, Decimal.value_zero]
    change 0 ≤ movement.debited.value
    linarith
  · rw [Decimal.le_iff_value_le]
    change movement.debited.value ≤ maximumAmount.value
    linarith
  · apply (movement.debited.significantScale_le_iff _).mpr
    have amountWhole := ((Decimal.significantScale_le_iff _ _).mp decimals).negate
    apply Decimal.WholeAt.of_value_eq_add
      ((Decimal.significantScale_le_iff _ _).mp sourceSolvent.decimals_le) amountWhole
    rw [value, Decimal.value_negate, sub_eq_add_neg]

theorem solvent_destinationAfter
    (wellFormed : order.check = .ok ())
    (sourceSolvent : movement.source.Solvent order.source)
    (destinationSolvent : movement.destination.Solvent order.destination) :
    movement.destinationAfter.Solvent order.destination := by
  obtain ⟨positive, decimals, _⟩ := order.amount_of_check_eq_ok wellFormed
  obtain ⟨_, value⟩ :=
    movement.values_after wellFormed sourceSolvent destinationSolvent
  have nonneg := destinationSolvent.nonneg
  rw [Decimal.lt_iff_value_lt, Decimal.value_zero] at positive
  rw [Decimal.le_iff_value_le, Decimal.value_zero] at nonneg
  refine ⟨destinationSolvent.id_eq, ?_, ?_, ?_⟩
  · rw [Decimal.le_iff_value_le, Decimal.value_zero]
    change 0 ≤ movement.credited.value
    linarith
  · exact (Decimal.le_iff_not_lt _ _).mpr movement.capped
  · apply (movement.credited.significantScale_le_iff _).mpr
    exact Decimal.WholeAt.of_value_eq_add
      ((Decimal.significantScale_le_iff _ _).mp destinationSolvent.decimals_le)
      ((Decimal.significantScale_le_iff _ _).mp decimals) value

end Movement

namespace Ledger

def total (ledger : Ledger) (code : String) : Rat :=
  (ledger.accounts.values.map fun account =>
    if account.currency = code then account.balance.value else 0).sum

theorem account?_moving
    {ledger : Ledger} {order : TransferOrder} {movement : Movement order}
    (sourceSolvent : movement.source.Solvent order.source)
    (destinationSolvent : movement.destination.Solvent order.destination)
    (id : String) :
    (ledger.moving movement).account? id =
      if id = order.destination then
        some movement.destinationAfter
      else if id = order.source then
        some movement.sourceAfter
      else
        ledger.account? id := by
  simp only [moving, account?, Table.get?_insert, sourceSolvent.id_eq,
    destinationSolvent.id_eq]

section Moving

variable {ledger : Ledger} {order : TransferOrder} {movement : Movement order}
  (solvent : ledger.Solvent) (shape : order.check = .ok ())
  (source : ledger.account? order.source = some movement.source)
  (destination : ledger.account? order.destination = some movement.destination)

include solvent shape source destination

theorem Solvent.moving : (ledger.moving movement).Solvent := by
  have sourceSolvent := solvent _ _ source
  have destinationSolvent := solvent _ _ destination
  intro id account found
  rw [account?_moving sourceSolvent destinationSolvent] at found
  split at found
  · rename_i same
    cases found
    rw [same]
    exact movement.solvent_destinationAfter shape sourceSolvent destinationSolvent
  · split at found
    · rename_i same
      cases found
      rw [same]
      exact movement.solvent_sourceAfter shape sourceSolvent destinationSolvent
    · exact solvent id account found

theorem follows_moving {id : String} {account : Account}
    (found : ledger.account? id = some account) :
    ∃ later, (ledger.moving movement).account? id = some later ∧
      account.Follows later [order] := by
  have id_eq := (solvent id account found).id_eq
  have sourceSolvent := solvent _ _ source
  have destinationSolvent := solvent _ _ destination
  have different := (order.check_eq_ok_iff.mp shape).2.2
  obtain ⟨debited, credited⟩ :=
    movement.values_after shape sourceSolvent destinationSolvent
  rw [account?_moving sourceSolvent destinationSolvent]
  by_cases toHere : id = order.destination
  · subst toHere
    rw [destination] at found
    cases found
    refine ⟨movement.destinationAfter, if_pos rfl, rfl, rfl, ?_, ?_⟩
    · simpa [Movement.destinationAfter, creditedTo, debitedFrom, id_eq,
        different] using credited
    · simp [Movement.destinationAfter, touching, id_eq]
  · by_cases fromHere : id = order.source
    · subst fromHere
      rw [source] at found
      cases found
      refine ⟨movement.sourceAfter, by rw [if_neg toHere, if_pos rfl], rfl, rfl,
        ?_, ?_⟩
      · simpa [Movement.sourceAfter, creditedTo, debitedFrom, id_eq,
          Ne.symm different, sub_eq_add_neg] using debited
      · simp [Movement.sourceAfter, touching, id_eq]
    · refine ⟨account, by rw [if_neg toHere, if_neg fromHere, found], rfl, rfl,
        ?_, ?_⟩
      · simp [creditedTo, debitedFrom, id_eq, Ne.symm toHere, Ne.symm fromHere]
      · simp [touching, id_eq, Ne.symm toHere, Ne.symm fromHere]

theorem keys_total_moving (code : String) :
    (ledger.moving movement).accounts.keys = ledger.accounts.keys ∧
      (ledger.moving movement).total code = ledger.total code := by
  have sourceSolvent := solvent _ _ source
  have destinationSolvent := solvent _ _ destination
  have different := (order.check_eq_ok_iff.mp shape).2.2
  obtain ⟨debited, credited⟩ :=
    movement.values_after shape sourceSolvent destinationSolvent
  have sourceFound : ledger.accounts.get? movement.source.id =
      some movement.source := by
    rw [sourceSolvent.id_eq]
    exact source
  have destinationFound : (ledger.accounts.insert movement.source.id
      movement.sourceAfter).get? movement.destination.id =
        some movement.destination := by
    rw [Table.get?_insert, sourceSolvent.id_eq, destinationSolvent.id_eq,
      if_neg (Ne.symm different)]
    exact destination
  constructor
  · exact (Table.keys_insert_of_get? destinationFound _).trans
      (Table.keys_insert_of_get? sourceFound _)
  · simp only [total, moving]
    rw [Table.sum_insert_of_get? _ destinationFound,
      Table.sum_insert_of_get? _ sourceFound]
    simp only [Movement.sourceAfter, Movement.destinationAfter,
      Account.withBalance_currency, Account.withBalance_balance,
      movement.sourceCurrency, movement.destinationCurrency, debited, credited]
    split <;> ring

end Moving

theorem perform_cases (ledger : Ledger) (call : LedgerCall) :
    (ledger.settles? call = none ∧
      (ledger.perform call).accounts = ledger.accounts) ∨
    ∃ (order : TransferOrder) (movement : Movement order),
      ledger.settles? call = some order ∧
      ledger.perform call = ledger.moving movement ∧
      order.check = .ok () ∧
      ledger.account? order.source = some movement.source ∧
      ledger.account? order.destination = some movement.destination := by
  cases call with
  | setOnline online => exact .inl ⟨rfl, rfl⟩
  | transfer order =>
      rcases asked : ledger.transfer order with ⟨answer, after⟩
      simp only [Ledger.perform, settles?, asked]
      cases transferCase asked with
      | malformed error shape => exact .inl ⟨rfl, rfl⟩
      | offline shape lost => exact .inl ⟨rfl, rfl⟩
      | decided decision shape available held =>
          cases decision <;> exact .inl ⟨rfl, rfl⟩
      | refused error shape available fresh refusal moved => exact .inl ⟨rfl, rfl⟩
      | applied movement shape available fresh source destination =>
          exact .inr ⟨order, movement, rfl, rfl, shape, source, destination⟩

theorem Solvent.perform {ledger : Ledger} (solvent : ledger.Solvent)
    (call : LedgerCall) : (ledger.perform call).Solvent := by
  rcases ledger.perform_cases call with
    ⟨_, accounts⟩ | ⟨order, movement, _, performed, shape, source, destination⟩
  · intro id account found
    rw [account?, accounts] at found
    exact solvent id account found
  · rw [performed]
    exact solvent.moving shape source destination

theorem follows_perform {ledger : Ledger} (solvent : ledger.Solvent)
    (call : LedgerCall) {id : String} {account : Account}
    (found : ledger.account? id = some account) :
    ∃ later, (ledger.perform call).account? id = some later ∧
      account.Follows later (ledger.settles? call).toList := by
  rcases ledger.perform_cases call with
    ⟨nothing, accounts⟩ |
      ⟨order, movement, settled, performed, shape, source, destination⟩
  · rw [nothing, account?, accounts]
    exact ⟨account, found, .refl account⟩
  · rw [settled, performed]
    exact follows_moving solvent shape source destination found

theorem keys_total_perform {ledger : Ledger} (solvent : ledger.Solvent)
    (call : LedgerCall) (code : String) :
    (ledger.perform call).accounts.keys = ledger.accounts.keys ∧
      (ledger.perform call).total code = ledger.total code := by
  rcases ledger.perform_cases call with
    ⟨_, accounts⟩ | ⟨order, movement, _, performed, shape, source, destination⟩
  · rw [total, total, accounts]
    exact ⟨rfl, rfl⟩
  · rw [performed]
    exact keys_total_moving solvent shape source destination code

theorem Solvent.afterCalls {ledger : Ledger} (solvent : ledger.Solvent)
    (calls : List LedgerCall) : (ledger.afterCalls calls).Solvent := by
  induction calls generalizing ledger with
  | nil => exact solvent
  | cons call rest inductionHypothesis =>
      exact inductionHypothesis (solvent.perform call)

theorem follows_afterCalls {ledger : Ledger} (solvent : ledger.Solvent)
    (calls : List LedgerCall) {id : String} {account : Account}
    (found : ledger.account? id = some account) :
    ∃ later, (ledger.afterCalls calls).account? id = some later ∧
      account.Follows later (ledger.settledOrders calls) := by
  induction calls generalizing ledger account with
  | nil => exact ⟨account, found, .refl account⟩
  | cons call rest inductionHypothesis =>
      obtain ⟨next, nextFound, step⟩ := follows_perform solvent call found
      obtain ⟨later, laterFound, run⟩ :=
        inductionHypothesis (solvent.perform call) nextFound
      exact ⟨later, laterFound, step.trans run⟩

theorem keys_total_afterCalls {ledger : Ledger} (solvent : ledger.Solvent)
    (calls : List LedgerCall) (code : String) :
    (ledger.afterCalls calls).accounts.keys = ledger.accounts.keys ∧
      (ledger.afterCalls calls).total code = ledger.total code := by
  induction calls generalizing ledger with
  | nil => exact ⟨rfl, rfl⟩
  | cons call rest inductionHypothesis =>
      obtain ⟨keys, total⟩ := inductionHypothesis (solvent.perform call)
      obtain ⟨stepKeys, stepTotal⟩ := keys_total_perform solvent call code
      exact ⟨keys.trans stepKeys, total.trans stepTotal⟩

/--
A run of calls computes exactly, keeps the accounts and what each currency
holds in total, and leaves every account solvent, at its old balance with what
the settled orders brought and without what they took.
-/
theorem transfers_conserve_money {ledger : Ledger} (solvent : ledger.Solvent)
    (calls : List LedgerCall) :
    (∀ before order rest, calls = before ++ .transfer order :: rest →
      order.check = .ok () →
      ∀ source destination,
        (ledger.afterCalls before).account? order.source = some source →
        (ledger.afterCalls before).account? order.destination =
          some destination →
        ExactMovement order source destination) ∧
    (ledger.afterCalls calls).accounts.keys = ledger.accounts.keys ∧
    (∀ id account, ledger.account? id = some account →
      ∃ later, (ledger.afterCalls calls).account? id = some later ∧
        later.Solvent id ∧
        account.Follows later (ledger.settledOrders calls)) ∧
    ∀ code, (ledger.afterCalls calls).total code = ledger.total code := by
  refine ⟨?_, (keys_total_afterCalls solvent calls "").1, ?_, ?_⟩
  · intro before order rest _ wellFormed source destination sourceFound
      destinationFound
    have solventBefore := solvent.afterCalls before
    exact exactMovement_of_solvent wellFormed
      (solventBefore _ _ sourceFound) (solventBefore _ _ destinationFound)
  · intro id account found
    obtain ⟨later, laterFound, follows⟩ := follows_afterCalls solvent calls found
    exact ⟨later, laterFound, solvent.afterCalls calls id later laterFound, follows⟩
  · intro code
    exact (keys_total_afterCalls solvent calls code).2

/-- A payment with one decimal to an account that is kept with 27 of them. -/
def smallOrder : TransferOrder where
  id := "p1"
  source := "a"
  destination := "b"
  amount := { coefficient := 1205, scale := 1 }
  currency := .dollar

/-- Two accounts whose balances are written with different scales. -/
def twoAccounts : Ledger :=
  empty.after
    [.openAccount
      { id := "a"
        currency := .dollar
        balance := { coefficient := 5000000, scale := 4 } },
    .openAccount
      { id := "b"
        currency := .dollar
        balance := { coefficient := 7 * 10 ^ 27, scale := 27 } }]

/-- The order is asked for during an outage, and then twice. -/
def repeatedCalls : List LedgerCall :=
  [.setOnline false, .transfer smallOrder, .setOnline true, .transfer smallOrder,
    .transfer smallOrder]

theorem solvent_twoAccounts : twoAccounts.Solvent :=
  (solvent_empty.openAccount _).openAccount _

theorem transfers_conserve_money_twoAccounts :
    twoAccounts.Solvent ∧
      twoAccounts.settledOrders repeatedCalls = [smallOrder] ∧
      (twoAccounts.afterCalls repeatedCalls).total "USD" =
        twoAccounts.total "USD" ∧
      ∀ account, twoAccounts.account? "b" = some account →
        ∃ later, (twoAccounts.afterCalls repeatedCalls).account? "b" = some later ∧
          later.Solvent "b" ∧ account.Follows later [smallOrder] := by
  have settled : twoAccounts.settledOrders repeatedCalls = [smallOrder] := by
    decide
  obtain ⟨_, _, accounts, totals⟩ :=
    transfers_conserve_money solvent_twoAccounts repeatedCalls
  exact ⟨solvent_twoAccounts, settled, totals "USD",
    fun account found => settled ▸ accounts "b" account found⟩

end Ledger

end Clearing
