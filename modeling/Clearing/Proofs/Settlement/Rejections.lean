import Clearing.Proofs.Settlement.Deliveries
import Clearing.Proofs.Settlement.Events
import Clearing.Proofs.World.Disturbances
/-!
Rejections.  A rejection is final when the ledger has noted it.  Orders that
are refused for their form and events in no supported currency are rejected
without a note, and a later event of the same payment may still be settled.
-/

namespace Clearing

/-- What may come between two deliveries, another delivery included. -/
inductive SettlementStep where
  | deliver (payload : Bytes)
  | disturb (disturbance : Disturbance)

namespace World

def settlementStep (world : World) : SettlementStep → World
  | .deliver payload => (world.settle .book payload).2
  | .disturb disturbance => world.disturb disturbance

def afterSteps (world : World) (steps : List SettlementStep) : World :=
  steps.foldl settlementStep world

/-- No event of the payment is settled from here on, whatever happens. -/
def Final (world : World) (id : String) : Prop :=
  ∀ steps payload event,
    SettlementEvent.decode payload = .ok event → event.id = id →
      ((world.afterSteps steps).settle .book payload).1 ≠ .answered .settled

end World

/-- The event gives an order that the ledger decides and does not turn away. -/
def SettlementEvent.IsDecidable (event : SettlementEvent) : Prop :=
  ∃ order, event.order? = some order ∧ order.check = .ok ()

theorem Delivery.decision_step
    {id : String} {decision : Decision} (sink : StatusSink) (world : World)
    (stage : DeliveryStage)
    (held : world.ledger.decisions.get? id = some decision) :
    (step sink world stage).2.ledger.decisions.get? id = some decision := by
  cases stage with
  | receive payload =>
      cases decoded : SettlementEvent.decode payload with
      | error fault =>
          rw [step, decoded]
          exact held
      | ok event =>
          cases ordered : event.order? with
          | none =>
              rw [step_receive_unsupported sink world decoded ordered]
              exact held
          | some order =>
              rw [step_receive sink world decoded ordered]
              split
              · exact held
              · exact Ledger.decision_apply held (.call (.transfer order))
  | dropSource order | dropDestination order =>
      rw [step]
      split
      · exact held
      · simpa using held
  | record id status disposition => cases sink <;> exact held

namespace World

theorem decision_settlementStep
    {world : World} {id : String} {decision : Decision}
    (held : world.ledger.decisions.get? id = some decision)
    (step : SettlementStep) :
    (world.settlementStep step).ledger.decisions.get? id = some decision := by
  cases step with
  | deliver payload =>
      exact Call.run_preserves (Delivery.decision_step .book) Delivery.steps held _
  | disturb disturbance =>
      rw [settlementStep, ledger_disturb]
      exact Ledger.decision_after held disturbance.ledgerEvents

theorem decision_afterSteps
    {world : World} {id : String} {decision : Decision}
    (held : world.ledger.decisions.get? id = some decision)
    (steps : List SettlementStep) :
    (world.afterSteps steps).ledger.decisions.get? id = some decision := by
  induction steps generalizing world with
  | nil => exact held
  | cons step rest inductionHypothesis =>
      exact inductionHypothesis (decision_settlementStep held step)

theorem undecided_of_settled
    {world : World} {payload : Bytes} {event : SettlementEvent}
    (decoded : SettlementEvent.decode payload = .ok event)
    (settled : (world.settle .book payload).1 = .answered .settled) :
    Text.isBlankText event.id = false ∧
      world.ledger.decisions.get? event.id = none := by
  obtain ⟨order, source, destination, ordered, applied⟩ :=
    SettlementEvent.exists_order_of_verdict_eq_settled (verdict_of_settle decoded settled).1
  obtain ⟨shape, fresh, _⟩ := Ledger.decision_of_transfer_eq_applied applied
  rw [← event.id_of_order?_eq_some ordered]
  exact ⟨(order.check_eq_ok_iff.mp shape).1, fresh⟩

theorem final_of_decision
    {world : World} {id : String} {decision : Decision}
    (held : world.ledger.decisions.get? id = some decision) : world.Final id := by
  rintro steps payload event decoded rfl settled
  have fresh := (undecided_of_settled decoded settled).2
  rw [decision_afterSteps held] at fresh
  cases fresh

theorem final_of_isBlankText
    {id : String} (blank : Text.isBlankText id = true) (world : World) :
    world.Final id := by
  rintro steps payload event decoded rfl settled
  have visible := (undecided_of_settled decoded settled).1
  rw [blank] at visible
  cases visible

end World

def SettlementEvent.largest (id : String) : SettlementEvent where
  id := id
  source := "payer"
  destination := "payee"
  amount := maximumAmount
  currency := Currency.dollar.code
  timestamp := .sample

theorem SettlementEvent.order?_largest (id : String) :
    (largest id).order? = some ((largest id).order .dollar) :=
  congrArg (Option.map (largest id).order) (Currency.parse?_code .dollar)

theorem SettlementEvent.legible_largest (id : String) : (largest id).Legible :=
  ⟨rfl, (by decide : Date.YearInRange Timestamp.sample.date.year)⟩

def payer : Account where
  id := "payer"
  balance := maximumAmount
  currency := Currency.dollar.code
  version := 1

def payee : Account where
  id := "payee"
  balance := .zero
  currency := Currency.dollar.code
  version := 1

theorem Ledger.transfer_largest
    {ledger : Ledger} {id : String} (visible : Text.isBlankText id = false)
    (available : ledger.online = true) (fresh : ledger.decisions.get? id = none)
    (payerFound : ledger.account? "payer" = some payer)
    (payeeFound : ledger.account? "payee" = some payee) :
    ∃ source destination,
      (ledger.transfer ((SettlementEvent.largest id).order .dollar)).1 =
        .ok (.applied source destination) := by
  generalize given : (SettlementEvent.largest id).order .dollar = order
  have source : order.source = "payer" := by rw [← given]; rfl
  have destination : order.destination = "payee" := by rw [← given]; rfl
  have amount : order.amount = maximumAmount := by rw [← given]; rfl
  have currency : order.currency = .dollar := by rw [← given]; rfl
  have named : order.id = id := by rw [← given]; rfl
  have shape : order.check = .ok () := by
    rw [TransferOrder.check_eq_ok_iff, named, amount, currency, source, destination]
    exact ⟨visible, ⟨_, rfl⟩, by decide⟩
  obtain ⟨debited, debit⟩ := Option.isSome_iff_exists.mp
    (by decide : (payer.balance.sub? maximumAmount).isSome = true)
  have credit : payee.balance.add? maximumAmount = some maximumAmount := by decide
  have passed : order.checkAgainst (some payer) (some payee) = .ok () := by
    rw [TransferOrder.checkAgainst_eq_ok_iff, amount, currency]
    exact ⟨rfl, by decide, rfl, maximumAmount, credit, by decide⟩
  have moved : ledger.moved order =
      .ok (payer.withBalance debited, payee.withBalance maximumAmount) := by
    simp only [Ledger.moved, source, destination, payerFound, payeeFound, passed,
      bind, Except.bind, amount, debit, credit]
    rfl
  have called : ledger.called.moved order = ledger.moved order := rfl
  refine ⟨payer.withBalance debited, payee.withBalance maximumAmount, ?_⟩
  rw [transfer_of_undecided shape available (named ▸ fresh), decideOrder, called,
    moved]

namespace World

/-- Every connection works and the payer can afford the payment. -/
def fundingSteps : List SettlementStep :=
  [.disturb (.setFaults .none), .disturb (.setLedger true),
    .disturb (.openAccount
      { id := "payer"
        currency := .dollar
        balance := maximumAmount }),
    .disturb (.openAccount
      { id := "payee"
        currency := .dollar
        balance := .zero })]

theorem not_final_of_undecided
    {world : World} {id : String} (visible : Text.isBlankText id = false)
    (fresh : world.ledger.decisions.get? id = none) : ¬ world.Final id := by
  intro final
  have decoded := SettlementEvent.decode_encode (SettlementEvent.legible_largest id)
  have payerFound :
      (world.afterSteps fundingSteps).ledger.account? "payer" = some payer := by
    change ((world.ledger.accounts.insert "payer" _).insert "payee" _).get? _ = _
    rw [Table.get?_insert, if_neg (by decide), Table.get?_insert, if_pos rfl]
    rfl
  have payeeFound :
      (world.afterSteps fundingSteps).ledger.account? "payee" = some payee := by
    change ((world.ledger.accounts.insert "payer" _).insert "payee" _).get? _ = _
    rw [Table.get?_insert, if_pos rfl]
    rfl
  have undecided : (world.afterSteps fundingSteps).ledger.decisions.get? id = none :=
    fresh
  obtain ⟨source, destination, applied⟩ :=
    Ledger.transfer_largest visible rfl undecided payerFound payeeFound
  have verdict : (SettlementEvent.largest id).verdict
      (world.afterSteps fundingSteps).ledger = .settled := by
    rw [(SettlementEvent.verdict_of_order?_eq_some
      (SettlementEvent.order?_largest id) _).1, applied]
    rfl
  rcases settle_cases .book (world.afterSteps fundingSteps) decoded with
    ⟨after, settled, _⟩ | ⟨silent | silent, _⟩
  · rw [verdict] at settled
    exact final fundingSteps _ _ decoded rfl (congrArg Prod.fst settled)
  · cases silent
  · cases silent

/-- The ledger notes why it rejects an order that is in form. -/
theorem exists_decision_of_rejected
    {world : World} {payload : Bytes} {event : SettlementEvent} {code : String}
    (decoded : SettlementEvent.decode payload = .ok event)
    (rejected :
      (world.settle .book payload).1 = .answered (.rejected code))
    (decidable : event.IsDecidable) :
    ∃ decision, (world.settle .book payload).2.ledger.decisions.get? event.id =
      some decision := by
  obtain ⟨verdict, after⟩ := verdict_of_settle decoded rejected
  obtain ⟨order, ordered, shape⟩ := decidable
  have named := event.id_of_order?_eq_some ordered
  obtain ⟨answered, moved⟩ :=
    SettlementEvent.verdict_of_order?_eq_some ordered world.ledger
  rw [answered] at verdict
  rw [after, moved, ← named]
  rcases asked : world.ledger.transfer order with ⟨answer, ledger⟩
  rw [asked] at verdict
  cases Ledger.transferCase asked with
  | malformed error malformed =>
      rw [shape] at malformed
      cases malformed
  | offline _ _ => cases verdict
  | decided decision _ _ held => exact ⟨decision, held⟩
  | refused error _ _ _ _ _ =>
      refine ⟨.rejected error.code, ?_⟩
      rw [Ledger.refused, Table.get?_insert, if_pos rfl]
  | applied movement _ _ _ _ _ => cases verdict

theorem decisions_of_rejected
    {world : World} {payload : Bytes} {event : SettlementEvent} {code : String}
    (decoded : SettlementEvent.decode payload = .ok event)
    (rejected :
      (world.settle .book payload).1 = .answered (.rejected code))
    (turnedAway : ¬ event.IsDecidable) :
    (world.settle .book payload).2.ledger.decisions = world.ledger.decisions := by
  rw [(verdict_of_settle decoded rejected).2]
  cases ordered : event.order? with
  | none => rw [(SettlementEvent.verdict_of_order?_eq_none ordered _).2]
  | some order =>
      rw [(SettlementEvent.verdict_of_order?_eq_some ordered _).2]
      rcases asked : world.ledger.transfer order with ⟨answer, ledger⟩
      cases Ledger.transferCase asked with
      | malformed _ _ => rfl
      | offline shape _ | decided _ shape _ _ | refused _ shape _ _ _ _
      | applied _ shape _ _ _ _ => exact absurd ⟨order, ordered, shape⟩ turnedAway

/--
Once an event has been rejected, no event of its payment is ever settled,
exactly if the ledger has decided about the payment, then or before, or if it
never decides about a payment of such an id.
-/
theorem rejection_final_iff
    {world : World} {payload : Bytes} {event : SettlementEvent} {code : String}
    (decoded : SettlementEvent.decode payload = .ok event)
    (rejected :
      (world.settle .book payload).1 = .answered (.rejected code)) :
    (world.settle .book payload).2.Final event.id ↔
      event.IsDecidable ∨ Text.isBlankText event.id = true ∨
        world.ledger.decisions.get? event.id ≠ none := by
  constructor
  · intro final
    by_contra undecided
    simp only [not_or, Bool.not_eq_true, ne_eq, not_not] at undecided
    obtain ⟨turnedAway, visible, fresh⟩ := undecided
    rw [← decisions_of_rejected decoded rejected turnedAway] at fresh
    exact not_final_of_undecided visible fresh final
  · rintro (decidable | blank | decided)
    · obtain ⟨decision, held⟩ :=
        exists_decision_of_rejected decoded rejected decidable
      exact final_of_decision held
    · exact final_of_isBlankText blank _
    · obtain ⟨decision, held⟩ := Option.ne_none_iff_exists'.mp decided
      exact final_of_decision
        (decision_settlementStep held (.deliver payload))

/-- A payment of half a cent, which no ledger decides about. -/
def halfCent : SettlementEvent :=
  { SettlementEvent.largest "p1" with amount := { coefficient := 5, scale := 3 } }

theorem rejection_final_iff_halfCent :
    ((ofPartitions 1).settle .book halfCent.encode).1 =
        .answered (.rejected "INVALID_TRANSFER") ∧
      ¬ ((ofPartitions 1).settle .book halfCent.encode).2.Final "p1" := by
  have legible : halfCent.Legible :=
    ⟨rfl, (by decide : Date.YearInRange Timestamp.sample.date.year)⟩
  have decoded := SettlementEvent.decode_encode legible
  have ordered : halfCent.order? = some (halfCent.order .dollar) :=
    congrArg (Option.map halfCent.order) (Currency.parse?_code .dollar)
  have malformed : (halfCent.order .dollar).check ≠ .ok () := by decide
  have verdict : halfCent.verdict .empty = .rejected "INVALID_TRANSFER" := by
    rw [(SettlementEvent.verdict_of_order?_eq_some ordered _).1]
    decide
  have rejected : ((ofPartitions 1).settle .book halfCent.encode).1 =
      .answered (.rejected "INVALID_TRANSFER") := by
    rcases settle_cases .book (ofPartitions 1) decoded with
      ⟨after, settled, _⟩ | ⟨silent | silent, _⟩
    · rw [settled]
      exact congrArg Call.answered verdict
    · cases silent
    · cases silent
  refine ⟨rejected, fun final => ?_⟩
  rcases (rejection_final_iff decoded rejected).mp final with
    ⟨order, given, shape⟩ | blank | decided
  · rw [ordered] at given
    exact malformed (Option.some.inj given ▸ shape)
  · exact absurd blank (by decide)
  · exact decided rfl

end World

end Clearing
