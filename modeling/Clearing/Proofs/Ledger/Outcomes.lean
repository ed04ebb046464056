import Clearing.Proofs.Ledger.Conservation
import Clearing.Proofs.Ledger.Rows
/-!
Outcomes of transfers.  An order is applied exactly if the ledger considers it and its two
accounts allow for it, and then it moves its amount between them and is decided.  An order that
is considered and not applied is refused for the first thing that speaks against it, which
becomes its decision.  Nothing else leaves a mark, and no row changes but by an applied order.
-/

namespace Clearing

/-- An account with another balance, and one version later. -/
structure Account.MovedBy (before after : Account) (difference : Rat) : Prop where
  id_eq : after.id = before.id
  currency_eq : after.currency = before.currency
  balance_eq : after.balance.value = before.balance.value + difference
  version_eq : after.version = before.version + 1

namespace Ledger

/-- An order is well formed, and it is up to the ledger to decide about its payment. -/
structure Considers (ledger : Ledger) (order : TransferOrder) : Prop where
  shape : order.check = .ok ()
  online : ledger.online = true
  undecided : ledger.decisions.get? order.id = none

structure Pays (ledger : Ledger) (order : TransferOrder) (source : Account) : Prop where
  found : ledger.account? order.source = some source
  currency_eq : source.currency = order.currency.code
  covered : order.amount.value ≤ source.balance.value

/-- The destination of an order holds its currency, and has room for its amount. -/
structure Receives (ledger : Ledger) (order : TransferOrder) (destination : Account) :
    Prop where
  found : ledger.account? order.destination = some destination
  currency_eq : destination.currency = order.currency.code
  room : destination.balance.value + order.amount.value ≤ maximumAmount.value

/-- The first thing that the accounts have against an order. -/
inductive Refuses (ledger : Ledger) (order : TransferOrder) : LedgerError → Prop where
  | sourceMissing :
      ledger.account? order.source = none →
      Refuses ledger order (.sourceNotFound order.source)
  | sourceCurrency (source : Account) :
      ledger.account? order.source = some source →
      source.currency ≠ order.currency.code →
      Refuses ledger order (.currencyMismatch source.id source.currency order.currency.code)
  | uncovered (source : Account) :
      ledger.account? order.source = some source →
      source.currency = order.currency.code →
      source.balance.value < order.amount.value →
      Refuses ledger order (.insufficientFunds source.balance order.amount)
  | destinationMissing (source : Account) :
      ledger.Pays order source →
      ledger.account? order.destination = none →
      Refuses ledger order (.destinationNotFound order.destination)
  | destinationCurrency (source destination : Account) :
      ledger.Pays order source →
      ledger.account? order.destination = some destination →
      destination.currency ≠ order.currency.code →
      Refuses ledger order
        (.currencyMismatch destination.id destination.currency order.currency.code)
  | noRoom (source destination : Account) :
      ledger.Pays order source →
      ledger.account? order.destination = some destination →
      destination.currency = order.currency.code →
      maximumAmount.value < destination.balance.value + order.amount.value →
      Refuses ledger order .creditTooLarge

/-- An order has moved its amount between its two accounts, and has decided its payment. -/
structure Applied (ledger : Ledger) (order : TransferOrder) (payer payee : Account)
    (after : Ledger) : Prop where
  moved : ∃ source destination, ledger.Pays order source ∧ ledger.Receives order destination ∧
    source.MovedBy payer (-order.amount.value) ∧ destination.MovedBy payee order.amount.value
  rows : ∀ id, after.account? id =
    if id = order.destination then some payee
    else if id = order.source then some payer
    else ledger.account? id
  decisions : after.decisions = ledger.decisions.insert order.id .applied

/-- An order has left every row as it is, and at most the code of its own refusal behind. -/
structure Unapplied (ledger : Ledger) (order : TransferOrder)
    (answer : Except LedgerError TransferOutcome) (after : Ledger) : Prop where
  accounts : after.accounts = ledger.accounts
  refused : ledger.Considers order → ∃ error, ledger.Refuses order error ∧
    answer = .error error ∧
    after.decisions = ledger.decisions.insert order.id (.rejected error.code)
  ignored : ¬ ledger.Considers order → after.decisions = ledger.decisions

variable {ledger : Ledger} {order : TransferOrder}

/-- Accounts that allow for an order have nothing against it. -/
theorem Refuses.not_bears {error : LedgerError} (refuses : ledger.Refuses order error)
    {source destination : Account} (pays : ledger.Pays order source)
    (receives : ledger.Receives order destination) : False := by
  cases refuses with
  | sourceMissing missing =>
      rw [pays.found] at missing
      cases missing
  | sourceCurrency other found foreign =>
      rw [pays.found] at found
      cases found
      exact foreign pays.currency_eq
  | uncovered other found _ short =>
      rw [pays.found] at found
      cases found
      exact absurd pays.covered (not_le.mpr short)
  | destinationMissing _ _ missing =>
      rw [receives.found] at missing
      cases missing
  | destinationCurrency _ other _ found foreign =>
      rw [receives.found] at found
      cases found
      exact foreign receives.currency_eq
  | noRoom _ other _ found _ full =>
      rw [receives.found] at found
      cases found
      exact absurd receives.room (not_le.mpr full)

theorem exists_pays_of_checkAgainst_eq_ok {destination? : Option Account}
    (passed : order.checkAgainst (ledger.account? order.source) destination? = .ok ()) :
    ∃ source, ledger.Pays order source := by
  unfold TransferOrder.checkAgainst at passed
  split at passed
  · cases passed
  · rename_i source found
    split at passed
    · cases passed
    · rename_i holds
      split at passed
      · cases passed
      · rename_i covered
        rw [Decimal.lt_iff_value_lt, not_lt] at covered
        exact ⟨source, found, not_not.mp holds, covered⟩

section Exact

variable (solvent : ledger.Solvent) (shape : order.check = .ok ())

include solvent shape

theorem exactMovement_of_found {source destination : Account}
    (sourceFound : ledger.account? order.source = some source)
    (destinationFound : ledger.account? order.destination = some destination) :
    ExactMovement order source destination :=
  exactMovement_of_solvent shape (solvent _ _ sourceFound) (solvent _ _ destinationFound)

theorem refuses_of_checkAgainst_eq_error {error : LedgerError}
    (failed : order.checkAgainst (ledger.account? order.source)
      (ledger.account? order.destination) = .error error) : ledger.Refuses order error := by
  unfold TransferOrder.checkAgainst at failed
  split at failed
  · rename_i missing
    cases failed
    exact .sourceMissing missing
  · rename_i source sourceFound
    split at failed
    · rename_i foreign
      cases failed
      exact .sourceCurrency source sourceFound foreign
    · rename_i sourceHolds
      split at failed
      · rename_i short
        rw [Decimal.lt_iff_value_lt] at short
        cases failed
        exact .uncovered source sourceFound (not_not.mp sourceHolds) short
      · rename_i covered
        rw [Decimal.lt_iff_value_lt, not_lt] at covered
        have pays : ledger.Pays order source := ⟨sourceFound, not_not.mp sourceHolds, covered⟩
        split at failed
        · cases failed
        · rename_i destination destinationFound
          split at failed
          · rename_i foreign
            cases failed
            exact .destinationCurrency source destination pays destinationFound foreign
          · rename_i destinationHolds
            obtain ⟨credited, credit, value⟩ :=
              (exactMovement_of_found solvent shape sourceFound destinationFound).credit
            simp only [credit] at failed
            split at failed
            · rename_i full
              rw [Decimal.lt_iff_value_lt, value] at full
              cases failed
              exact .noRoom source destination pays destinationFound
                (not_not.mp destinationHolds) full
            · cases failed

/-- An amount that is not moved is refused for the first thing that speaks against it. -/
theorem refuses_of_moved_eq_error {error : LedgerError}
    (failed : ledger.moved order = .error error) : ledger.Refuses order error := by
  simp only [moved, bind, Except.bind] at failed
  split at failed
  · rename_i other checked
    cases failed
    exact refuses_of_checkAgainst_eq_error solvent shape checked
  · rename_i passed
    obtain ⟨source, pays⟩ := exists_pays_of_checkAgainst_eq_ok passed
    cases destinationFound : ledger.account? order.destination with
    | none =>
        simp only [pays.found, destinationFound] at failed
        cases failed
        exact .destinationMissing source pays destinationFound
    | some destination =>
        -- between solvent accounts both sums exist
        obtain ⟨⟨debited, debit, _⟩, ⟨credited, credit, _⟩⟩ :=
          exactMovement_of_found solvent shape pays.found destinationFound
        simp only [pays.found, destinationFound, debit, credit] at failed
        cases failed

variable {movement : Movement order}
  (sourceFound : ledger.account? order.source = some movement.source)
  (destinationFound : ledger.account? order.destination = some movement.destination)

include sourceFound destinationFound

theorem pays_receives_of_movement :
    ledger.Pays order movement.source ∧ ledger.Receives order movement.destination ∧
      movement.source.MovedBy movement.sourceAfter (-order.amount.value) ∧
      movement.destination.MovedBy movement.destinationAfter order.amount.value := by
  obtain ⟨debited, credited⟩ := movement.values_after shape (solvent _ _ sourceFound)
    (solvent _ _ destinationFound)
  have covered := movement.covered
  have capped := movement.capped
  rw [Decimal.lt_iff_value_lt, not_lt] at covered capped
  rw [credited] at capped
  rw [sub_eq_add_neg] at debited
  exact ⟨⟨sourceFound, movement.sourceCurrency, covered⟩,
    ⟨destinationFound, movement.destinationCurrency, capped⟩, ⟨rfl, rfl, debited, rfl⟩,
    ⟨rfl, rfl, credited, rfl⟩⟩

end Exact

theorem Solvent.after (solvent : ledger.Solvent) (events : List LedgerEvent) :
    (ledger.after events).Solvent := by
  induction events generalizing ledger with
  | nil => exact solvent
  | cons event rest inductionHypothesis =>
      apply inductionHypothesis
      cases event with
      | call call => exact solvent.perform call
      | openAccount opening => exact solvent.openAccount opening

theorem unapplied_of_not_considers (ignored : ¬ ledger.Considers order)
    (answer : Except LedgerError TransferOutcome) :
    ledger.Unapplied order answer ledger.called where
  accounts := rfl
  refused considers := absurd considers ignored
  ignored _ := rfl

/-- An order is applied between accounts that allow for it, or it is not and they do not. -/
theorem TransferCase.applied_or_unapplied (solvent : ledger.Solvent)
    {answer : Except LedgerError TransferOutcome} {after : Ledger}
    (taken : ledger.TransferCase order answer after) :
    (ledger.Considers order ∧ ∃ payer payee, answer = .ok (.applied payer payee) ∧
      ledger.Applied order payer payee after) ∨
    (∀ payer payee, answer ≠ .ok (.applied payer payee)) ∧
      ledger.Unapplied order answer after ∧
      (ledger.Considers order → ∃ error, ledger.Refuses order error) := by
  cases taken with
  | malformed error malformed =>
      have ignored : ¬ ledger.Considers order := by
        rintro ⟨shape, _, _⟩
        rw [malformed] at shape
        cases shape
      exact .inr ⟨nofun, unapplied_of_not_considers ignored _, (absurd · ignored)⟩
  | offline shape lost =>
      have ignored : ¬ ledger.Considers order := by
        rintro ⟨_, online, _⟩
        rw [lost] at online
        cases online
      exact .inr ⟨nofun, unapplied_of_not_considers ignored _, (absurd · ignored)⟩
  | decided decision shape available held =>
      have ignored : ¬ ledger.Considers order := by
        rintro ⟨_, _, undecided⟩
        rw [held] at undecided
        cases undecided
      refine .inr ⟨?_, unapplied_of_not_considers ignored _, (absurd · ignored)⟩
      cases decision <;> exact nofun
  | refused error shape available fresh refusal failed =>
      have refuses := refuses_of_moved_eq_error solvent shape failed
      refine .inr ⟨nofun, ⟨rfl, fun _ => ⟨error, refuses, rfl, rfl⟩, fun ignored => ?_⟩,
        fun _ => ⟨error, refuses⟩⟩
      exact absurd ⟨shape, available, fresh⟩ ignored
  | applied movement shape available fresh sourceFound destinationFound =>
      have keyed : ledger.Keyed := fun id account found => (solvent id account found).id_eq
      obtain ⟨pays, receives, debited, credited⟩ :=
        pays_receives_of_movement solvent shape sourceFound destinationFound
      exact .inl ⟨⟨shape, available, fresh⟩, _, _, rfl,
        ⟨_, _, pays, receives, debited, credited⟩,
        account?_moving_of_keyed keyed sourceFound destinationFound, rfl⟩

/--
Whatever has happened to accounts that were opened with valid balances, an order is applied
exactly if it is well formed, the database answers, its payment is undecided, both its accounts
hold its currency, the source has the amount and the destination has room for it.  Then the rows
of these two change by the amount, no other row does, and the payment is decided.  In all other
cases no row changes, and no decision is made but that an order which was considered is refused
for what its accounts have against it.  An order that passes its checks has a source, and the
sums that it asks for can be computed.
-/
theorem transfer_applies_or_refuses (events : List LedgerEvent) (order : TransferOrder) :
    let ledger := empty.after events
    let answer := (ledger.transfer order).1
    let after := (ledger.transfer order).2
    ((∃ payer payee, answer = .ok (.applied payer payee)) ↔
      ledger.Considers order ∧ (∃ source, ledger.Pays order source) ∧
        ∃ destination, ledger.Receives order destination) ∧
    (∀ payer payee, answer = .ok (.applied payer payee) →
      ledger.Applied order payer payee after) ∧
    ((∀ payer payee, answer ≠ .ok (.applied payer payee)) →
      ledger.Unapplied order answer after) ∧
    (order.checkAgainst (ledger.account? order.source) (ledger.account? order.destination) =
      .ok () → (ledger.account? order.source).isSome) ∧
    ∀ source destination, order.check = .ok () →
      ledger.account? order.source = some source →
      ledger.account? order.destination = some destination →
      ExactMovement order source destination := by
  intro ledger answer after
  have solvent : ledger.Solvent := solvent_empty.after events
  have taken : ledger.TransferCase order answer after := transferCase rfl
  refine ⟨?_, ?_, ?_, fun passed => ?_, fun source destination shape sourceFound
    destinationFound => exactMovement_of_found solvent shape sourceFound destinationFound⟩
  · rcases taken.applied_or_unapplied solvent with
      ⟨considers, payer, payee, applied, made⟩ | ⟨others, _, refused⟩
    · obtain ⟨source, destination, pays, receives, _⟩ := made.moved
      exact ⟨fun _ => ⟨considers, ⟨source, pays⟩, destination, receives⟩,
        fun _ => ⟨payer, payee, applied⟩⟩
    · constructor
      · rintro ⟨payer, payee, applied⟩
        exact absurd applied (others payer payee)
      · rintro ⟨considers, ⟨source, pays⟩, destination, receives⟩
        obtain ⟨error, refuses⟩ := refused considers
        exact (refuses.not_bears pays receives).elim
  · intro payer payee applied
    rcases taken.applied_or_unapplied solvent with
      ⟨_, otherPayer, otherPayee, same, made⟩ | ⟨others, _⟩
    · rw [applied] at same
      cases same
      exact made
    · exact absurd applied (others payer payee)
  · intro others
    rcases taken.applied_or_unapplied solvent with
      ⟨_, payer, payee, applied, _⟩ | ⟨_, unapplied, _⟩
    · exact absurd applied (others payer payee)
    · exact unapplied
  · obtain ⟨source, pays⟩ := exists_pays_of_checkAgainst_eq_ok passed
    rw [pays.found]
    rfl

end Ledger

end Clearing
