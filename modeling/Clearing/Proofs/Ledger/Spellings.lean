import Clearing.Proofs.Ledger.Outcomes
import Clearing.Proofs.Settlement.Deliveries
/-!
Orders that differ in how they spell their accounts.  The ledger knows an account by one
spelling, so two such orders come to the same only if they are spelled alike, if neither is
considered, or if both are refused for the same.
-/

namespace Clearing

/-- The same order but for the accounts, and neither takes from where the other gives to. -/
structure TransferOrder.Respells (order other : TransferOrder) : Prop where
  id_eq : other.id = order.id
  amount_eq : other.amount = order.amount
  currency_eq : other.currency = order.currency
  source_ne : order.source ≠ other.destination
  destination_ne : order.destination ≠ other.source

theorem TransferOrder.Respells.eq_of_accounts {order other : TransferOrder}
    (respells : order.Respells other) (source : order.source = other.source)
    (destination : order.destination = other.destination) : order = other := by
  obtain ⟨_, _, _, _, _⟩ := order
  obtain ⟨_, _, _, _, _⟩ := other
  cases source
  cases destination
  cases respells.id_eq
  cases respells.amount_eq
  cases respells.currency_eq
  rfl

theorem Account.MovedBy.ne {before after : Account} {difference : Rat}
    (moved : before.MovedBy after difference) : before ≠ after := by
  rintro rfl
  have version := moved.version_eq
  omega

namespace Ledger

variable {ledger : Ledger} {order other : TransferOrder}

/-- The order is refused for what its accounts have against it. -/
theorem Refuses.moved_eq_error (solvent : ledger.Solvent) (shape : order.check = .ok ())
    {error : LedgerError} (refuses : ledger.Refuses order error) :
    ledger.moved order = .error error := by
  have held {source : Account} (pays : ledger.Pays order source) :
      ¬ source.currency ≠ order.currency.code :=
    not_not.mpr pays.currency_eq
  have covered {source : Account} (pays : ledger.Pays order source) :
      ¬ source.balance < order.amount := by
    rw [Decimal.lt_iff_value_lt, not_lt]
    exact pays.covered
  suffices failed : order.checkAgainst (ledger.account? order.source)
      (ledger.account? order.destination) = .error error ∨
      order.checkAgainst (ledger.account? order.source)
        (ledger.account? order.destination) = .ok () ∧
        ledger.account? order.destination = none ∧
        ∃ source, ledger.account? order.source = some source ∧
          error = .destinationNotFound order.destination by
    rw [moved]
    rcases failed with refused | ⟨passed, missing, source, found, rfl⟩
    · rw [refused]
      rfl
    · rw [passed, found, missing]
      rfl
  cases refuses with
  | sourceMissing missing =>
      rw [missing]
      exact .inl rfl
  | sourceCurrency source found foreign =>
      rw [found]
      exact .inl (if_pos foreign)
  | uncovered source found holds short =>
      rw [← Decimal.lt_iff_value_lt] at short
      rw [found]
      exact .inl ((if_neg (not_not.mpr holds)).trans (if_pos short))
  | destinationMissing source pays missing =>
      rw [pays.found, missing]
      exact .inr ⟨(if_neg (held pays)).trans (if_neg (covered pays)), rfl, source, rfl, rfl⟩
  | destinationCurrency source destination pays found foreign =>
      rw [pays.found, found]
      exact .inl ((if_neg (held pays)).trans ((if_neg (covered pays)).trans (if_pos foreign)))
  | noRoom source destination pays found holds full =>
      obtain ⟨credited, credit, value⟩ :=
        (exactMovement_of_found solvent shape pays.found found).credit
      rw [← value, ← Decimal.lt_iff_value_lt] at full
      rw [pays.found, found]
      refine .inl ((if_neg (held pays)).trans ((if_neg (covered pays)).trans
        ((if_neg (not_not.mpr holds)).trans ?_)))
      rw [credit]
      exact if_pos full

theorem Refuses.unique (solvent : ledger.Solvent) (shape : order.check = .ok ())
    {first second : LedgerError} (one : ledger.Refuses order first)
    (another : ledger.Refuses order second) : first = second := by
  have same := one.moved_eq_error solvent shape
  rw [another.moved_eq_error solvent shape] at same
  cases same
  rfl

def outcome (ledger : Ledger) (order : TransferOrder) : Disposition × Table String Account :=
  (.ofAnswer (ledger.transfer order).1, (ledger.transfer order).2.accounts)

theorem outcome_of_refuses (solvent : ledger.Solvent) (considers : ledger.Considers order)
    {error : LedgerError} (refuses : ledger.Refuses order error) :
    ledger.outcome order = (.rejected error.code, ledger.accounts) := by
  have refusable : error.isRefusal = true :=
    isRefusal_of_moved_eq_error (refuses.moved_eq_error solvent considers.shape)
  have taken : ledger.TransferCase order (ledger.transfer order).1
    (ledger.transfer order).2 := transferCase rfl
  rcases taken.applied_or_unapplied solvent with
    ⟨_, payer, payee, _, applied⟩ | ⟨_, unapplied, _⟩
  · obtain ⟨source, destination, pays, receives, _⟩ := applied.moved
    exact (refuses.not_bears pays receives).elim
  · obtain ⟨found, refusal, answer, _⟩ := unapplied.refused considers
    rw [outcome, answer, unapplied.accounts, refusal.unique solvent considers.shape refuses,
      Disposition.ofAnswer, if_neg (by simp [LedgerError.isTransient_of_isRefusal refusable])]

theorem outcome_eq_of_not_considers (shape : order.check = .ok ())
    (otherShape : other.check = .ok ()) (same : other.id = order.id)
    (ignored : ¬ ledger.Considers order) : ledger.outcome order = ledger.outcome other := by
  rw [outcome, outcome, transfer_eq, transfer_eq, shape, otherShape, same]
  cases online : ledger.online with
  | false => rfl
  | true =>
      cases undecided : ledger.decisions.get? order.id with
      | some decision => rfl
      | none => exact absurd ⟨shape, online, undecided⟩ ignored

theorem Applied.eq_of_accounts (shape : order.check = .ok ()) (respells : order.Respells other)
    {payer payee otherPayer otherPayee : Account} {after otherAfter : Ledger}
    (applied : ledger.Applied order payer payee after)
    (otherApplied : ledger.Applied other otherPayer otherPayee otherAfter)
    (same : after.accounts = otherAfter.accounts) : order = other := by
  obtain ⟨source, destination, pays, receives, paid, received⟩ := applied.moved
  have distinct := ((order.check_eq_ok_iff).mp shape).2.2
  have rows (id : String) : after.account? id = otherAfter.account? id := by
    rw [account?, account?, same]
  apply respells.eq_of_accounts
  · by_contra different
    -- the payer would be as it was after the other order
    have row := rows order.source
    rw [applied.rows, otherApplied.rows, if_neg distinct, if_pos rfl, if_neg respells.source_ne,
      if_neg different, pays.found] at row
    exact paid.ne (Option.some.inj row).symm
  · by_contra different
    have row := rows order.destination
    rw [applied.rows, otherApplied.rows, if_pos rfl, if_neg different,
      if_neg respells.destination_ne, receives.found] at row
    exact received.ne (Option.some.inj row).symm

theorem outcome_settled {payer payee : Account}
    (answer : (ledger.transfer order).1 = .ok (.applied payer payee)) :
    (ledger.outcome order).1 = .settled := by
  rw [outcome, answer]
  rfl

/--
Two orders that differ in their accounts only come to the same exactly if they do not differ, if
they are not for the ledger to decide, or if both are refused with one code.
-/
theorem outcome_eq_iff (solvent : ledger.Solvent) (shape : order.check = .ok ())
    (otherShape : other.check = .ok ()) (respells : order.Respells other) :
    ledger.outcome order = ledger.outcome other ↔
      order = other ∨ ¬ ledger.Considers order ∨
        ∃ error otherError, ledger.Refuses order error ∧ ledger.Refuses other otherError ∧
          error.code = otherError.code := by
  have passes (considers : ledger.Considers order) : ledger.Considers other :=
    ⟨otherShape, considers.online, respells.id_eq ▸ considers.undecided⟩
  constructor
  · intro same
    by_cases considers : ledger.Considers order
    · have taken : ledger.TransferCase order (ledger.transfer order).1
        (ledger.transfer order).2 := transferCase rfl
      have otherTaken : ledger.TransferCase other (ledger.transfer other).1
        (ledger.transfer other).2 := transferCase rfl
      rcases taken.applied_or_unapplied solvent with
          ⟨_, payer, payee, answer, applied⟩ | ⟨_, _, refused⟩ <;>
        rcases otherTaken.applied_or_unapplied solvent with
          ⟨_, otherPayer, otherPayee, otherAnswer, otherApplied⟩ | ⟨_, _, otherRefused⟩
      · exact .inl (applied.eq_of_accounts shape respells otherApplied (congrArg Prod.snd same))
      · obtain ⟨error, refuses⟩ := otherRefused (passes considers)
        have settled := outcome_settled answer
        rw [same, outcome_of_refuses solvent (passes considers) refuses] at settled
        cases settled
      · obtain ⟨error, refuses⟩ := refused considers
        have settled := outcome_settled otherAnswer
        rw [← same, outcome_of_refuses solvent considers refuses] at settled
        cases settled
      · obtain ⟨error, refuses⟩ := refused considers
        obtain ⟨otherError, otherRefuses⟩ := otherRefused (passes considers)
        rw [outcome_of_refuses solvent considers refuses,
          outcome_of_refuses solvent (passes considers) otherRefuses] at same
        exact .inr (.inr ⟨error, otherError, refuses, otherRefuses,
          Disposition.rejected.inj (congrArg Prod.fst same)⟩)
    · exact .inr (.inl considers)
  · rintro (rfl | ignored | ⟨error, otherError, refuses, otherRefuses, same⟩)
    · rfl
    · exact outcome_eq_of_not_considers shape otherShape respells.id_eq ignored
    · by_cases considers : ledger.Considers order
      · rw [outcome_of_refuses solvent considers refuses,
          outcome_of_refuses solvent (passes considers) otherRefuses, same]
      · exact outcome_eq_of_not_considers shape otherShape respells.id_eq considers

end Ledger

end Clearing
