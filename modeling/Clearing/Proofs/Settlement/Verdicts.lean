import Clearing.Proofs.Settlement.Rejections
/-!
Verdicts.  A delivery has its verdict as soon as the ledger has been told of the
message.  The verdict is pinned by the message alone or by what the ledger has decided
about the payment, unless it is to try again.
-/

namespace Clearing

/-- The status that a decision gives to its payment. -/
def Decision.status : Decision → PaymentStatus
  | .applied => .completed
  | .rejected _ => .failed

def Disposition.ofPayload (payload : Bytes) (ledger : Ledger) : Disposition :=
  match SettlementEvent.decode payload with
  | .ok event => event.verdict ledger
  | .error _ => .poison

def Ledger.told (ledger : Ledger) (payload : Bytes) : Ledger :=
  match SettlementEvent.decode payload with
  | .ok event => event.ledgerAfter ledger
  | .error _ => ledger

/-- No decision of a ledger has been revised. -/
def Ledger.KeepsDecisions (before after : Ledger) : Prop :=
  ∀ ⦃id decision⦄, before.decisions.get? id = some decision →
    after.decisions.get? id = some decision

/-- What the deliveries of an event resolve to, once that is certain. -/
inductive SettlementEvent.Resolves (ledger : Ledger) (event : SettlementEvent) :
    PaymentStatus → Prop where
  | turnedAway :
      ¬ event.IsDecidable →
      Resolves ledger event .failed
  | decided (decision : Decision) :
      event.IsDecidable →
      ledger.decisions.get? event.id = some decision →
      Resolves ledger event decision.status

/-- What the deliveries of a message resolve to, once that is certain. -/
inductive Resolves (ledger : Ledger) (payload : Bytes) : Option PaymentStatus → Prop where
  | poison (fault : Json.Fault) :
      SettlementEvent.decode payload = .error fault →
      Resolves ledger payload none
  | event (event : SettlementEvent) (status : PaymentStatus) :
      SettlementEvent.decode payload = .ok event →
      event.Resolves ledger status →
      Resolves ledger payload (some status)

variable {ledger after : Ledger} {payload : Bytes} {event : SettlementEvent}

theorem SettlementEvent.Resolves.unique {first second : PaymentStatus}
    (one : event.Resolves ledger first) (other : event.Resolves ledger second) :
    first = second := by
  cases one with
  | turnedAway refused =>
      cases other with
      | turnedAway _ => rfl
      | decided _ decidable _ => exact absurd decidable refused
  | decided decision decidable held =>
      cases other with
      | turnedAway refused => exact absurd decidable refused
      | decided again _ otherHeld =>
          rw [held] at otherHeld
          rw [Option.some.inj otherHeld]

namespace Resolves

theorem unique {first second : Option PaymentStatus}
    (one : Resolves ledger payload first) (other : Resolves ledger payload second) :
    first = second := by
  cases one with
  | poison fault unreadable =>
      cases other with
      | poison _ _ => rfl
      | event event status decoded _ =>
          rw [unreadable] at decoded
          cases decoded
  | event event status decoded resolves =>
      cases other with
      | poison fault unreadable =>
          rw [decoded] at unreadable
          cases unreadable
      | event same otherStatus again otherResolves =>
          rw [decoded] at again
          cases again
          rw [resolves.unique otherResolves]

theorem mono {status? : Option PaymentStatus} (resolves : Resolves ledger payload status?)
    (kept : ledger.KeepsDecisions after) : Resolves after payload status? := by
  cases resolves with
  | poison fault unreadable => exact .poison fault unreadable
  | event event status decoded resolves =>
      refine .event event status decoded ?_
      cases resolves with
      | turnedAway refused => exact .turnedAway refused
      | decided decision decidable held =>
          exact .decided decision decidable (kept held)

theorem eq_none_iff {status? : Option PaymentStatus}
    (resolves : Resolves ledger payload status?) :
    status? = none ↔ ∃ fault, SettlementEvent.decode payload = .error fault := by
  cases resolves with
  | poison fault unreadable => exact ⟨fun _ => ⟨fault, unreadable⟩, fun _ => rfl⟩
  | event event status decoded _ =>
      constructor
      · intro none
        cases none
      · rintro ⟨fault, unreadable⟩
        rw [decoded] at unreadable
        cases unreadable

theorem applied_of_completed (resolves : Resolves ledger payload (some .completed)) :
    ∃ event, SettlementEvent.decode payload = .ok event ∧
      ledger.decisions.get? event.id = some .applied := by
  obtain ⟨event, decoded, resolved⟩ : ∃ event,
      SettlementEvent.decode payload = .ok event ∧ event.Resolves ledger .completed := by
    cases resolves with
    | event event _ decoded resolved => exact ⟨event, decoded, resolved⟩
  refine ⟨event, decoded, ?_⟩
  generalize completed : PaymentStatus.completed = status at resolved
  cases resolved with
  | turnedAway _ => cases completed
  | decided decision _ held =>
      cases decision with
      | applied => exact held
      | rejected code => cases completed

end Resolves

theorem Decision.resolvedStatus_replay (decision : Decision) :
    (Disposition.ofAnswer decision.replay).resolvedStatus = some decision.status := by
  cases decision <;> rfl

theorem LedgerError.resolvedStatus_refusal {error : LedgerError}
    (refusal : error.isRefusal = true) :
    (Disposition.ofAnswer (.error error)).resolvedStatus = some .failed := by
  rw [Disposition.ofAnswer, if_neg (by simp [isTransient_of_isRefusal refusal])]
  rfl

/-- With its answer to an order, the ledger makes certain what becomes of the event. -/
theorem SettlementEvent.resolves_of_order?
    (decoded : SettlementEvent.decode payload = .ok event) {order : TransferOrder}
    (ordered : event.order? = some order) {answer : Except LedgerError TransferOutcome}
    (asked : ledger.transfer order = (answer, after))
    (answered : Disposition.ofAnswer answer ≠ .deferred) :
    Clearing.Resolves after payload (Disposition.ofAnswer answer).resolvedStatus := by
  have named := event.id_of_order?_eq_some ordered
  have decided (decision : Decision) (shape : order.check = .ok ())
      (held : after.decisions.get? order.id = some decision) :
      Clearing.Resolves after payload (some decision.status) :=
    .event event _ decoded (.decided decision ⟨order, ordered, shape⟩ (named ▸ held))
  cases Ledger.transferCase asked with
  | malformed error malformed =>
      rw [LedgerError.resolvedStatus_refusal (order.isRefusal_of_check_eq_error malformed)]
      refine .event event _ decoded (.turnedAway ?_)
      rintro ⟨same, given, shape⟩
      rw [ordered] at given
      cases given
      rw [malformed] at shape
      cases shape
  | offline _ _ => exact absurd rfl answered
  | decided decision shape _ held =>
      rw [decision.resolvedStatus_replay]
      exact decided decision shape held
  | refused error shape _ _ refusal _ =>
      rw [LedgerError.resolvedStatus_refusal refusal]
      refine decided (.rejected error.code) shape ?_
      rw [Ledger.refused, Table.get?_insert, if_pos rfl]
  | applied movement shape _ _ _ _ =>
      refine decided .applied shape ?_
      rw [Ledger.moving, Table.get?_insert, if_pos rfl]

theorem Disposition.resolves_ofPayload
    (answered : ofPayload payload ledger ≠ .deferred) :
    Resolves (ledger.told payload) payload (ofPayload payload ledger).resolvedStatus := by
  unfold ofPayload Ledger.told at *
  cases decoded : SettlementEvent.decode payload with
  | error fault => exact .poison fault decoded
  | ok event =>
      rw [decoded] at answered
      dsimp only at answered ⊢
      cases ordered : event.order? with
      | none =>
          rw [(SettlementEvent.verdict_of_order?_eq_none ordered ledger).1]
          refine .event event _ decoded (.turnedAway ?_)
          rintro ⟨order, given, _⟩
          rw [ordered] at given
          cases given
      | some order =>
          obtain ⟨verdict, after⟩ :=
            SettlementEvent.verdict_of_order?_eq_some ordered ledger
          rw [verdict] at answered ⊢
          rw [after]
          exact event.resolves_of_order? decoded ordered rfl answered

/-- Only an event of a payment without a decision is settled by the ledger. -/
theorem Disposition.undecided_of_ofPayload
    (settled : ofPayload payload ledger = .settled) :
    ∃ event, SettlementEvent.decode payload = .ok event ∧
      ledger.decisions.get? event.id = none := by
  unfold ofPayload at settled
  cases decoded : SettlementEvent.decode payload with
  | error fault =>
      rw [decoded] at settled
      cases settled
  | ok event =>
      rw [decoded] at settled
      obtain ⟨order, source, destination, ordered, applied⟩ :=
        SettlementEvent.exists_order_of_verdict_eq_settled settled
      refine ⟨event, rfl, ?_⟩
      rw [← event.id_of_order?_eq_some ordered]
      exact (Ledger.decision_of_transfer_eq_applied applied).2.1

namespace Delivery

/-- The disposition of a delivery, known as soon as the ledger has been told. -/
def verdict? : Delivery → Option Disposition
  | .running (.receive _) => none
  | .running (.dropSource _) | .running (.dropDestination _) => some .settled
  | .running (.record _ _ disposition) | .answered disposition => some disposition

theorem verdict?_conclude (id : String) (disposition : Disposition) :
    (conclude id disposition).verdict? = some disposition := by
  unfold conclude
  split <;> rfl

theorem verdict?_ofResult (order : TransferOrder)
    (result : Except LedgerError TransferOutcome) :
    (ofResult order result).verdict? = some (.ofAnswer result) := by
  rcases result with error | (_ | _)
  · rw [ofResult, Disposition.ofAnswer]
    split
    · rfl
    · exact verdict?_conclude order.id _
  · rfl
  · exact verdict?_conclude order.id .alreadySettled

variable (sink : StatusSink) (world : World)

/-- The first step of a delivery tells the ledger, unless the ledger never answers. -/
theorem step_receive_eq_or (payload : Bytes) :
    step sink world (.receive payload) = (.running (.receive payload), world) ∨
      (step sink world (.receive payload)).1.verdict? =
          some (.ofPayload payload world.ledger) ∧
        (step sink world (.receive payload)).2.ledger = world.ledger.told payload := by
  unfold Disposition.ofPayload Ledger.told
  cases decoded : SettlementEvent.decode payload with
  | error fault =>
      rw [step, decoded]
      exact .inr ⟨rfl, rfl⟩
  | ok event =>
      dsimp only
      cases ordered : event.order? with
      | none =>
          obtain ⟨verdict, after⟩ :=
            SettlementEvent.verdict_of_order?_eq_none ordered world.ledger
          rw [step_receive_unsupported sink world decoded ordered, verdict, after]
          exact .inr ⟨verdict?_conclude event.id (.rejected unsupportedCurrency), rfl⟩
      | some order =>
          obtain ⟨verdict, after⟩ :=
            SettlementEvent.verdict_of_order?_eq_some ordered world.ledger
          rw [step_receive sink world decoded ordered, verdict, after]
          split
          · exact .inl rfl
          · exact .inr ⟨verdict?_ofResult order _, rfl⟩

/-- The steps after the first change neither the verdict nor the ledger. -/
theorem step_of_verdict? {stage : DeliveryStage} {disposition : Disposition}
    (known : verdict? (.running stage) = some disposition) :
    (step sink world stage).1.verdict? = some disposition ∧
      (step sink world stage).2.ledger = world.ledger := by
  cases stage with
  | receive payload => cases known
  | dropSource order =>
      rw [step]
      split
      · exact ⟨known, rfl⟩
      · exact ⟨known, ledger_dropBalance world order.source⟩
  | dropDestination order =>
      rw [step]
      split
      · exact ⟨known, rfl⟩
      · rw [← known]
        exact ⟨verdict?_conclude order.id .settled,
          ledger_dropBalance world order.destination⟩
  | record id status decided => cases sink <;> exact ⟨known, rfl⟩

end Delivery

end Clearing
