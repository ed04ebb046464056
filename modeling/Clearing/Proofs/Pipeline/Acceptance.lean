import Clearing.Proofs.Decimal.Squeezing
import Clearing.Proofs.Pipeline.Operations
import Clearing.Proofs.Settlement.Verdicts
/-!
The ledger on payments that the intake has accepted.  Such a payment is never taken for a
message of another kind, nor for one in a currency that is not supported, and its order is
invalid only for what the destination would come to hold.
-/

namespace Clearing

/-- With the amount of an order, its destination would hold more than is allowed. -/
def Ledger.WouldExceed (ledger : Ledger) (order : TransferOrder) : Prop :=
  ∃ destination, ledger.account? order.destination = some destination ∧
    maximumAmount.value < destination.balance.value + order.amount.value

/-- The code of everything that is wrong with an order itself or with what it would lead to. -/
def LedgerError.invalidCode : String := "INVALID_TRANSFER"

/-- A disposition that an order without a flaw of its own may get. -/
structure Disposition.IsFair (disposition : Disposition) (exceeds : Prop) : Prop where
  ne_poison : disposition ≠ .poison
  ne_unsupported : disposition ≠ .rejected Delivery.unsupportedCurrency
  exceeds : disposition = .rejected LedgerError.invalidCode → exceeds

theorem Disposition.IsFair.imp {disposition : Disposition} {before after : Prop}
    (fair : disposition.IsFair before) (implies : before → after) :
    disposition.IsFair after :=
  ⟨fair.ne_poison, fair.ne_unsupported, fun invalid => implies (fair.exceeds invalid)⟩

theorem Disposition.isFair_of_unrejected {disposition : Disposition} {exceeds : Prop}
    (legible : disposition ≠ .poison) (unrejected : ∀ code, disposition ≠ .rejected code) :
    disposition.IsFair exceeds :=
  ⟨legible, unrejected _, fun invalid => absurd invalid (unrejected _)⟩

theorem Disposition.isFair_of_rejected {code : String} {exceeds : Prop}
    (supported : code ≠ Delivery.unsupportedCurrency)
    (explained : code = LedgerError.invalidCode → exceeds) :
    (Disposition.rejected code).IsFair exceeds where
  ne_poison same := by cases same
  ne_unsupported unsupported := supported (Disposition.rejected.inj unsupported)
  exceeds invalid := explained (Disposition.rejected.inj invalid)

theorem LedgerError.code_ne_unsupportedCurrency (error : LedgerError) :
    error.code ≠ Delivery.unsupportedCurrency := by
  cases error <;> simp [code, Delivery.unsupportedCurrency]

theorem LedgerError.exists_reason_of_code (error : LedgerError)
    (invalid : error.code = invalidCode) : ∃ reason, error = .invalidTransfer reason := by
  cases error with
  | invalidTransfer reason => exact ⟨reason, rfl⟩
  | sourceNotFound _ | destinationNotFound _ | insufficientFunds _ _
  | currencyMismatch _ _ _ | previouslyRejected _ | database =>
      simp [code, invalidCode] at invalid

namespace TransferOrder

variable {order : TransferOrder}

theorem positive_of_check (shape : order.check = .ok ()) : 0 < order.amount.value := by
  obtain ⟨_, amount, _⟩ := (order.check_eq_ok_iff).mp shape
  have positive := ((Amount.exists_ofDecimal_eq_ok_iff _ _).mp amount).1
  rwa [Decimal.lt_iff_value_lt, Decimal.value_zero] at positive

/-- With both accounts at hand, an order is invalid only for its credit. -/
theorem uncredited_of_checkAgainst {source? destination? : Option Account} {reason : String}
    (refused : order.checkAgainst source? destination? = .error (.invalidTransfer reason)) :
    ∃ destination, destination? = some destination ∧
      ∀ credited, destination.balance.add? order.amount = some credited →
        maximumAmount < credited := by
  unfold checkAgainst at refused
  split at refused
  · cases refused
  · split at refused
    · cases refused
    · split at refused
      · cases refused
      · split at refused
        · cases refused
        · rename_i destination
          refine ⟨destination, rfl, fun credited added => ?_⟩
          rw [added] at refused
          split at refused
          · cases refused
          · dsimp only at refused
            split at refused
            · rename_i exceeded
              exact exceeded
            · cases refused

end TransferOrder

namespace Ledger

variable {ledger : Ledger} {order : TransferOrder}

/-- An order that is found invalid when money is to be moved would give too much. -/
theorem wouldExceed_of_moved (positive : 0 < order.amount.value) {reason : String}
    (refused : ledger.moved order = .error (.invalidTransfer reason)) :
    ledger.WouldExceed order := by
  simp only [moved] at refused
  cases passed : order.checkAgainst (ledger.account? order.source)
      (ledger.account? order.destination) with
  | error found =>
      rw [passed] at refused
      cases refused
      obtain ⟨destination, present, uncredited⟩ := order.uncredited_of_checkAgainst passed
      exact ⟨destination, present, Decimal.maximum_lt_of_uncredited positive uncredited⟩
  | ok =>
      simp only [passed, bind, Except.bind] at refused
      cases payer : ledger.account? order.source with
      | none =>
          rw [payer] at refused
          cases refused
      | some source =>
          cases payee : ledger.account? order.destination with
          | none =>
              rw [payer, payee] at refused
              cases refused
          | some destination =>
              rw [payer, payee] at passed refused
              obtain ⟨_, covered, _, credited, added, _⟩ :=
                (order.checkAgainst_eq_ok_iff source destination).mp passed
              rw [Decimal.lt_iff_value_lt, not_lt] at covered
              obtain ⟨debited, taken⟩ := Decimal.exists_sub?_of_le positive covered
              simp only [taken, added] at refused
              cases refused

/-- An order without a flaw of its own is refused only for the accounts as they are. -/
theorem isFair_ofAnswer (shape : order.check = .ok ()) :
    (Disposition.ofAnswer (ledger.transfer order).1).IsFair (ledger.WouldExceed order) := by
  rcases asked : ledger.transfer order with ⟨answer, after⟩
  have taken := transferCase asked
  dsimp only
  cases taken with
  | malformed error malformed =>
      rw [shape] at malformed
      cases malformed
  | offline _ _ => exact Disposition.isFair_of_unrejected (by rintro ⟨⟩) (by rintro _ ⟨⟩)
  | applied movement _ _ _ _ _ =>
      exact Disposition.isFair_of_unrejected (by rintro ⟨⟩) (by rintro _ ⟨⟩)
  | decided decision _ _ _ =>
      cases decision with
      | applied => exact Disposition.isFair_of_unrejected (by rintro ⟨⟩) (by rintro _ ⟨⟩)
      | rejected code =>
          refine Disposition.isFair_of_rejected
            (LedgerError.previouslyRejected code).code_ne_unsupportedCurrency fun invalid => ?_
          obtain ⟨_, other⟩ :=
            (LedgerError.previouslyRejected code).exists_reason_of_code invalid
          cases other
  | refused error _ _ _ refusal moved =>
      have final := LedgerError.isTransient_of_isRefusal refusal
      rw [Disposition.ofAnswer, if_neg (by simp [final])]
      refine Disposition.isFair_of_rejected error.code_ne_unsupportedCurrency fun invalid => ?_
      obtain ⟨reason, rfl⟩ := error.exists_reason_of_code invalid
      exact wouldExceed_of_moved (TransferOrder.positive_of_check shape) moved

end Ledger

theorem TransferOrder.AskedBy.isFair {order : TransferOrder} {payload : Bytes}
    (asked : order.AskedBy payload) (ledger : Ledger) :
    (Disposition.ofPayload payload ledger).IsFair (ledger.WouldExceed order) := by
  obtain ⟨event, decoded, ordered, shape⟩ := asked
  unfold Disposition.ofPayload
  rw [decoded]
  dsimp only
  rw [(SettlementEvent.verdict_of_order?_eq_some ordered ledger).1]
  exact Ledger.isFair_ofAnswer shape

end Clearing
