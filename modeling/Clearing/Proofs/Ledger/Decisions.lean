import Clearing.Proofs.Ledger.History
import Clearing.Proofs.Table
import Mathlib.Data.List.Induction
/-!
Decisions.  An order of a payment that has none leaves the first decision, every
later order of the payment is answered from it, and nothing ever changes it.
-/

namespace Clearing

/-- The answer to the order that decides a payment, and the decision it leaves. -/
inductive Decides : Except LedgerError TransferOutcome → Decision → Prop where
  | applied (source destination : Account) :
      Decides (.ok (.applied source destination)) .applied
  | refused (error : LedgerError) :
      error.isRefusal = true →
      Decides (.error error) (.rejected error.code)

namespace Ledger

theorem decision_insert_iff
    {ledger : Ledger} {order : TransferOrder} (shape : order.check = .ok ())
    (fresh : ledger.decisions.get? order.id = none)
    {answer : Except LedgerError TransferOutcome} {made decision : Decision}
    (decides : Decides answer decision ↔ made = decision) (id : String) :
    (ledger.decisions.insert order.id made).get? id = some decision ↔
      ledger.decisions.get? id = some decision ∨
        order.id = id ∧ ledger.decisions.get? id = none ∧
          order.check = .ok () ∧ Decides answer decision := by
  rw [Table.get?_insert_eq_some_iff fresh]
  refine or_congr_right (and_congr_right fun same => ?_)
  rw [← same, decides]
  exact ⟨fun stored => ⟨fresh, shape, stored⟩, fun decided => decided.2.2⟩

/-- A transfer decides its own payment, once, and no other. -/
theorem decision_transfer_iff
    {ledger after : Ledger} {order : TransferOrder}
    {answer : Except LedgerError TransferOutcome}
    (asked : ledger.transfer order = (answer, after))
    (id : String) (decision : Decision) :
    after.decisions.get? id = some decision ↔
      ledger.decisions.get? id = some decision ∨
        order.id = id ∧ ledger.decisions.get? id = none ∧
          order.check = .ok () ∧ Decides answer decision := by
  cases transferCase asked with
  | malformed error shape =>
      simp only [called, shape, reduceCtorEq, false_and, and_false, or_false]
  | offline shape lost =>
      constructor
      · exact .inl
      · rintro (held | ⟨_, _, _, decides⟩)
        · exact held
        · cases decides with
          | refused error refusal => cases refusal
  | decided earlier shape available held =>
      constructor
      · exact .inl
      · rintro (found | ⟨rfl, fresh, _, _⟩)
        · exact found
        · rw [held] at fresh
          cases fresh
  | refused error shape available fresh refusal moved =>
      refine decision_insert_iff shape fresh ⟨fun decides => ?_, ?_⟩ id
      · cases decides
        rfl
      · rintro rfl
        exact .refused error refusal
  | applied movement shape available fresh source destination =>
      refine decision_insert_iff shape fresh ⟨fun decides => ?_, ?_⟩ id
      · cases decides
        rfl
      · rintro rfl
        exact .applied _ _

theorem decision_of_transfer_eq_applied
    {ledger : Ledger} {order : TransferOrder} {source destination : Account}
    (applied : (ledger.transfer order).1 = .ok (.applied source destination)) :
    order.check = .ok () ∧ ledger.decisions.get? order.id = none ∧
      (ledger.transfer order).2.decisions.get? order.id = some .applied := by
  rcases asked : ledger.transfer order with ⟨answer, after⟩
  rw [asked] at applied
  have decision := decision_transfer_iff asked order.id .applied
  cases transferCase asked with
  | malformed error shape => cases applied
  | offline shape lost => cases applied
  | decided earlier shape available held => cases earlier <;> cases applied
  | refused error shape available fresh refusal moved => cases applied
  | applied movement shape available fresh sourceFound destinationFound =>
      exact ⟨shape, fresh,
        decision.mpr (.inr ⟨rfl, fresh, shape, .applied _ _⟩)⟩

theorem accounts_transfer_eq_or (ledger : Ledger) (order : TransferOrder) :
    (ledger.transfer order).2.accounts = ledger.accounts ∨
      ∃ source destination,
        (ledger.transfer order).1 = .ok (.applied source destination) := by
  rcases asked : ledger.transfer order with ⟨answer, after⟩
  cases transferCase asked with
  | malformed _ _ | offline _ _ | decided _ _ _ _ | refused _ _ _ _ _ _ =>
      exact .inl rfl
  | applied movement _ _ _ _ _ => exact .inr ⟨_, _, rfl⟩

/-- Whatever was decided is what a later order of the payment is told. -/
theorem transfer_of_decision
    {ledger : Ledger} {order : TransferOrder} {decision : Decision}
    (shape : order.check = .ok ()) (available : ledger.online = true)
    (held : ledger.decisions.get? order.id = some decision) :
    (ledger.transfer order).1 = decision.replay := by
  rcases asked : ledger.transfer order with ⟨answer, after⟩
  cases transferCase asked with
  | malformed error malformed =>
      rw [shape] at malformed
      cases malformed
  | offline _ lost =>
      rw [available] at lost
      cases lost
  | decided earlier _ _ found =>
      rw [held] at found
      cases found
      rfl
  | refused error _ _ fresh _ _ | applied movement _ _ fresh _ _ =>
      rw [held] at fresh
      cases fresh

/-- Only a decision makes the ledger answer that it has decided already. -/
theorem decision_of_transfer_eq_replay
    {ledger : Ledger} {order : TransferOrder} (decision : Decision)
    (replayed : (ledger.transfer order).1 = decision.replay) :
    order.check = .ok () ∧ ledger.online = true ∧
      ledger.decisions.get? order.id = some decision := by
  rcases asked : ledger.transfer order with ⟨answer, after⟩
  rw [asked] at replayed
  cases transferCase asked with
  | malformed error shape =>
      have refusal := order.isRefusal_of_check_eq_error shape
      cases decision <;> cases replayed
      cases refusal
  | offline shape lost => cases decision <;> cases replayed
  | decided earlier shape available held =>
      have same : earlier = decision := by
        cases earlier <;> cases decision <;> cases replayed <;> rfl
      exact ⟨shape, available, same ▸ held⟩
  | refused error shape available fresh refusal moved =>
      cases decision <;> cases replayed
      cases refusal
  | applied movement shape available fresh source destination =>
      cases decision <;> cases replayed

theorem decision_apply
    {ledger : Ledger} {id : String} {decision : Decision}
    (held : ledger.decisions.get? id = some decision) (event : LedgerEvent) :
    (ledger.apply event).decisions.get? id = some decision := by
  cases event with
  | openAccount opening => exact held
  | call call =>
      cases call with
      | setOnline online => exact held
      | transfer order =>
          rcases asked : ledger.transfer order with ⟨answer, after⟩
          simp only [apply, perform, asked]
          exact (decision_transfer_iff asked id decision).mpr (.inl held)

theorem decision_after
    {ledger : Ledger} {id : String} {decision : Decision}
    (held : ledger.decisions.get? id = some decision)
    (events : List LedgerEvent) :
    (ledger.after events).decisions.get? id = some decision := by
  induction events generalizing ledger with
  | nil => exact held
  | cons event rest inductionHypothesis =>
      exact inductionHypothesis (decision_apply held event)

/-- In a history from the empty ledger, an order was asked for and answered. -/
def Answered (events : List LedgerEvent) (order : TransferOrder)
    (answer : Except LedgerError TransferOutcome) : Prop :=
  ∃ before rest, events = before ++ .call (.transfer order) :: rest ∧
    ((empty.after before).transfer order).1 = answer

theorem Answered.append
    {events : List LedgerEvent} {order : TransferOrder}
    {answer : Except LedgerError TransferOutcome}
    (answered : Answered events order answer) (more : List LedgerEvent) :
    Answered (events ++ more) order answer := by
  obtain ⟨before, rest, rfl, result⟩ := answered
  exact ⟨before, rest ++ more, by simp, result⟩

/-- Every decision goes back to an answer that some order of the payment got. -/
theorem answered_of_decision
    {events : List LedgerEvent} {id : String} {decision : Decision}
    (held : (empty.after events).decisions.get? id = some decision) :
    ∃ order answer, order.id = id ∧ Answered events order answer ∧
      Decides answer decision := by
  induction events using List.reverseRecOn with
  | nil => cases held
  | append_singleton events event inductionHypothesis =>
      have earlier (found : (empty.after events).decisions.get? id =
          some decision) :
          ∃ order answer, order.id = id ∧
            Answered (events ++ [event]) order answer ∧
            Decides answer decision := by
        obtain ⟨order, answer, named, answered, decides⟩ :=
          inductionHypothesis found
        exact ⟨order, answer, named, answered.append [event], decides⟩
      rw [after_append] at held
      cases event with
      | openAccount opening => exact earlier held
      | call call =>
          cases call with
          | setOnline online => exact earlier held
          | transfer order =>
              rcases asked : (empty.after events).transfer order with
                ⟨answer, after⟩
              have step : ((empty.after events).after
                  [.call (.transfer order)]) = after :=
                congrArg Prod.snd asked
              rw [step] at held
              rcases (decision_transfer_iff asked id decision).mp held with
                found | ⟨named, _, _, decides⟩
              · exact earlier found
              · exact ⟨order, answer, named,
                  ⟨events, [], rfl, congrArg Prod.fst asked⟩, decides⟩

theorem decision_of_answered_applied
    {events : List LedgerEvent} {order : TransferOrder}
    {source destination : Account}
    (answered : Answered events order (.ok (.applied source destination))) :
    (empty.after events).decisions.get? order.id = some .applied := by
  obtain ⟨before, rest, rfl, result⟩ := answered
  have decided := (decision_of_transfer_eq_applied result).2.2
  rw [after_append]
  exact decision_after decided rest

theorem not_answered_of_transfer_eq_applied
    {events : List LedgerEvent} {order : TransferOrder}
    {source destination : Account}
    (applied : ((empty.after events).transfer order).1 =
      .ok (.applied source destination))
    {earlier : TransferOrder} (named : earlier.id = order.id)
    {earlierSource earlierDestination : Account} :
    ¬ Answered events earlier
      (.ok (.applied earlierSource earlierDestination)) := by
  intro answered
  have fresh := (decision_of_transfer_eq_applied applied).2.1
  have held := decision_of_answered_applied answered
  rw [named, fresh] at held
  cases held

theorem transfer_eq_alreadySettled_iff
    (events : List LedgerEvent) (order : TransferOrder) :
    ((empty.after events).transfer order).1 = .ok .alreadySettled ↔
      order.check = .ok () ∧ (empty.after events).online = true ∧
        ∃ earlier source destination, earlier.id = order.id ∧
          Answered events earlier (.ok (.applied source destination)) := by
  constructor
  · intro settled
    obtain ⟨shape, available, held⟩ :=
      decision_of_transfer_eq_replay .applied settled
    obtain ⟨earlier, answer, named, answered, decides⟩ := answered_of_decision held
    cases decides with
    | applied source destination =>
        exact ⟨shape, available, earlier, source, destination, named, answered⟩
  · rintro ⟨shape, available, earlier, source, destination, named, answered⟩
    have held := decision_of_answered_applied answered
    rw [named] at held
    exact transfer_of_decision shape available held

theorem exists_answered_of_previouslyRejected
    {events : List LedgerEvent} {order : TransferOrder} {reason : String}
    (repeated : ((empty.after events).transfer order).1 =
      .error (.previouslyRejected reason)) :
    ∃ earlier error, earlier.id = order.id ∧
      Answered events earlier (.error error) ∧ error.isRefusal = true ∧
      error.code = reason := by
  obtain ⟨_, _, held⟩ := decision_of_transfer_eq_replay (.rejected reason) repeated
  obtain ⟨earlier, answer, named, answered, decides⟩ := answered_of_decision held
  generalize rejection : Decision.rejected reason = decision at decides
  cases decides with
  | applied source destination => cases rejection
  | refused error refusal =>
      cases rejection
      exact ⟨earlier, error, named, answered, refusal, rfl⟩

/--
After any history, money is moved only for a payment for which none was moved
before; an order is known to be settled exactly when an order of its payment
was applied; a repeated refusal repeats the code of the first one; and no
decision is ever revised.
-/
theorem payments_settle_once (events : List LedgerEvent) :
    (∀ order source destination,
      ((empty.after events).transfer order).1 =
        .ok (.applied source destination) →
      ∀ earlier earlierSource earlierDestination, earlier.id = order.id →
        ¬ Answered events earlier
          (.ok (.applied earlierSource earlierDestination))) ∧
    (∀ order,
      ((empty.after events).transfer order).1 = .ok .alreadySettled ↔
        order.check = .ok () ∧ (empty.after events).online = true ∧
          ∃ earlier source destination, earlier.id = order.id ∧
            Answered events earlier (.ok (.applied source destination))) ∧
    (∀ order reason,
      ((empty.after events).transfer order).1 =
        .error (.previouslyRejected reason) →
      ∃ earlier error, earlier.id = order.id ∧
        Answered events earlier (.error error) ∧ error.isRefusal = true ∧
        error.code = reason) ∧
    ∀ id decision more,
      (empty.after events).decisions.get? id = some decision →
      (empty.after (events ++ more)).decisions.get? id = some decision := by
  refine ⟨?_, ?_, ?_, ?_⟩
  · intro order source destination applied earlier earlierSource
      earlierDestination named
    exact not_answered_of_transfer_eq_applied applied named
  · intro order
    exact transfer_eq_alreadySettled_iff events order
  · intro order reason repeated
    exact exists_answered_of_previouslyRejected repeated
  · intro id decision more held
    rw [after_append]
    exact decision_after held more

end Ledger

end Clearing
