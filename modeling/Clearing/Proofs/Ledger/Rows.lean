import Clearing.Proofs.Ledger.Decisions
/-!
The rows of a ledger.  An account stands under its own id, and a transfer touches no rows but
the two that its order names, and those only when it is applied.
-/

namespace Clearing.Ledger

def Keyed (ledger : Ledger) : Prop :=
  ∀ id account, ledger.account? id = some account → account.id = id

theorem keyed_empty : empty.Keyed := by
  intro id account found
  cases found

theorem Keyed.openAccount {ledger : Ledger} (keyed : ledger.Keyed) (id : String)
    (currency : Currency) (balance : Decimal) :
    (ledger.openAccount id currency balance).Keyed := by
  intro other account found
  rw [Ledger.openAccount, account?, Table.get?_insert] at found
  split at found
  · rename_i same
    cases found
    exact same.symm
  · exact keyed other account found

theorem account?_moving_of_keyed {ledger : Ledger} {order : TransferOrder}
    {movement : Movement order} (keyed : ledger.Keyed)
    (source : ledger.account? order.source = some movement.source)
    (destination : ledger.account? order.destination = some movement.destination)
    (id : String) :
    (ledger.moving movement).account? id =
      if id = order.destination then
        some movement.destinationAfter
      else if id = order.source then
        some movement.sourceAfter
      else
        ledger.account? id := by
  simp only [moving, account?, Table.get?_insert, keyed _ _ source, keyed _ _ destination]

theorem Keyed.transfer {ledger : Ledger} (keyed : ledger.Keyed) (order : TransferOrder) :
    (ledger.transfer order).2.Keyed := by
  rcases asked : ledger.transfer order with ⟨answer, after⟩
  cases transferCase asked with
  | malformed _ _ | offline _ _ | decided _ _ _ _ | refused _ _ _ _ _ _ => exact keyed
  | applied movement _ _ _ source destination =>
      intro id account found
      rw [account?_moving_of_keyed keyed source destination] at found
      split at found
      · rename_i same
        cases found
        exact (keyed _ _ destination).trans same.symm
      · split at found
        · rename_i same
          cases found
          exact (keyed _ _ source).trans same.symm
        · exact keyed id account found

theorem account?_transfer_eq_or {ledger : Ledger} (keyed : ledger.Keyed)
    (order : TransferOrder) (id : String) :
    (ledger.transfer order).2.account? id = ledger.account? id ∨
      (∃ source destination,
        (ledger.transfer order).1 = .ok (.applied source destination)) ∧
      (id = order.source ∨ id = order.destination) := by
  rcases asked : ledger.transfer order with ⟨answer, after⟩
  cases transferCase asked with
  | malformed _ _ | offline _ _ | decided _ _ _ _ | refused _ _ _ _ _ _ => exact .inl rfl
  | applied movement _ _ _ source destination =>
      rw [account?_moving_of_keyed keyed source destination]
      by_cases credited : id = order.destination
      · exact .inr ⟨⟨_, _, rfl⟩, .inr credited⟩
      · by_cases debited : id = order.source
        · exact .inr ⟨⟨_, _, rfl⟩, .inl debited⟩
        · rw [if_neg credited, if_neg debited]
          exact .inl rfl

end Clearing.Ledger
