import Clearing.Proofs.Ledger.Conservation
import Clearing.Proofs.Ledger.Decisions
/-!
The orders that a run of calls settles.  There is one for each payment that the
run decides to apply, and none for any other payment.
-/

namespace Clearing.Ledger

theorem after_map_call (ledger : Ledger) (calls : List LedgerCall) :
    ledger.after (calls.map .call) = ledger.afterCalls calls :=
  List.foldl_map

theorem applied_of_settles?_eq_some {ledger : Ledger} {call : LedgerCall}
    {order : TransferOrder} (settled : ledger.settles? call = some order) :
    call = .transfer order ∧ ∃ source destination,
      (ledger.transfer order).1 = .ok (.applied source destination) := by
  cases call with
  | setOnline online => cases settled
  | transfer asked =>
      unfold settles? at settled
      rcases answer : (ledger.transfer asked).1 with error | (⟨source, destination⟩ | _)
      · simp [answer] at settled
      · simp only [answer, Option.some.injEq] at settled
        subst settled
        exact ⟨rfl, source, destination, answer⟩
      · simp [answer] at settled

theorem undecided_of_settledOrders {ledger : Ledger} {calls : List LedgerCall}
    {order : TransferOrder} (settled : order ∈ ledger.settledOrders calls) :
    ledger.decisions.get? order.id = none := by
  induction calls generalizing ledger with
  | nil => cases settled
  | cons call rest inductionHypothesis =>
      rcases List.mem_append.mp settled with now | later
      · obtain ⟨rfl, source, destination, applied⟩ :=
          applied_of_settles?_eq_some (Option.mem_toList.mp now)
        exact (decision_of_transfer_eq_applied applied).2.1
      · have fresh := inductionHypothesis later
        cases held : ledger.decisions.get? order.id with
        | none => rfl
        | some decision =>
            have kept : (ledger.perform call).decisions.get? order.id = some decision :=
              decision_apply held (.call call)
            rw [fresh] at kept
            cases kept

theorem nodup_settledOrders (ledger : Ledger) (calls : List LedgerCall) :
    ((ledger.settledOrders calls).map TransferOrder.id).Nodup := by
  induction calls generalizing ledger with
  | nil => exact List.nodup_nil
  | cons call rest inductionHypothesis =>
      have later := inductionHypothesis (ledger.perform call)
      unfold settledOrders
      cases settled : ledger.settles? call with
      | none => exact later
      | some order =>
          refine List.nodup_cons.mpr ⟨?_, later⟩
          intro again
          obtain ⟨other, member, same⟩ := List.mem_map.mp again
          obtain ⟨rfl, source, destination, applied⟩ := applied_of_settles?_eq_some settled
          have decided := (decision_of_transfer_eq_applied applied).2.2
          have fresh := undecided_of_settledOrders member
          rw [same] at fresh
          change (ledger.transfer order).2.decisions.get? order.id = none at fresh
          rw [decided] at fresh
          cases fresh

theorem applied_perform_iff (ledger : Ledger) (call : LedgerCall) (id : String) :
    (ledger.perform call).decisions.get? id = some .applied ↔
      ledger.decisions.get? id = some .applied ∨
        ∃ order ∈ (ledger.settles? call).toList, order.id = id := by
  cases call with
  | setOnline online => simp [perform, settles?]
  | transfer order =>
      rcases asked : ledger.transfer order with ⟨answer, after⟩
      have decision := decision_transfer_iff asked id .applied
      have performed : ledger.perform (.transfer order) = after :=
        congrArg Prod.snd asked
      rw [performed, decision]
      refine or_congr_right ⟨?_, ?_⟩
      · rintro ⟨named, _, _, decides⟩
        generalize applied : Decision.applied = made at decides
        cases decides with
        | refused error refusal => cases applied
        | applied source destination =>
            refine ⟨order, ?_, named⟩
            simp [settles?, asked]
      · rintro ⟨other, member, named⟩
        obtain ⟨same, source, destination, applied⟩ :=
          applied_of_settles?_eq_some (Option.mem_toList.mp member)
        cases same
        obtain ⟨shape, fresh, _⟩ := decision_of_transfer_eq_applied applied
        rw [asked] at applied
        refine ⟨named, named ▸ fresh, shape, ?_⟩
        cases applied
        exact .applied source destination

theorem applied_afterCalls_iff (ledger : Ledger) (calls : List LedgerCall)
    (id : String) :
    (ledger.afterCalls calls).decisions.get? id = some .applied ↔
      ledger.decisions.get? id = some .applied ∨
        ∃ order ∈ ledger.settledOrders calls, order.id = id := by
  induction calls generalizing ledger with
  | nil => simp [afterCalls, settledOrders]
  | cons call rest inductionHypothesis =>
      have step := inductionHypothesis (ledger.perform call)
      rw [applied_perform_iff, or_assoc] at step
      simp only [settledOrders, List.mem_append, or_and_right, exists_or]
      exact step

theorem answered_of_settledOrders {events : List LedgerEvent} {calls : List LedgerCall}
    {order : TransferOrder} (settled : order ∈ (empty.after events).settledOrders calls) :
    ∃ source destination,
      Answered (events ++ calls.map .call) order (.ok (.applied source destination)) := by
  induction calls generalizing events with
  | nil => cases settled
  | cons call rest inductionHypothesis =>
      rcases List.mem_append.mp settled with now | later
      · obtain ⟨rfl, source, destination, applied⟩ :=
          applied_of_settles?_eq_some (Option.mem_toList.mp now)
        exact ⟨source, destination, events, rest.map .call, rfl, applied⟩
      · have next : (empty.after events).perform call =
            empty.after (events ++ [.call call]) := by
          rw [after_append]
          rfl
        rw [next] at later
        obtain ⟨source, destination, answered⟩ := inductionHypothesis later
        refine ⟨source, destination, ?_⟩
        rw [List.append_assoc] at answered
        exact answered

theorem eq_of_answered_applied {events : List LedgerEvent} {first second : TransferOrder}
    {firstSource firstDestination secondSource secondDestination : Account}
    (firstAnswered :
      Answered events first (.ok (.applied firstSource firstDestination)))
    (secondAnswered :
      Answered events second (.ok (.applied secondSource secondDestination)))
    (same : first.id = second.id) : first = second := by
  obtain ⟨before, rest, rfl, applied⟩ := firstAnswered
  obtain ⟨other, later, split, otherApplied⟩ := secondAnswered
  rcases List.append_eq_append_iff.mp split with
    ⟨between, rfl, tail⟩ | ⟨between, rfl, tail⟩
  · cases between with
    | nil =>
        cases tail
        rfl
    | cons event between =>
        cases tail
        exact absurd ⟨before, between, rfl, applied⟩
          (not_answered_of_transfer_eq_applied otherApplied same)
  · cases between with
    | nil =>
        cases tail
        rfl
    | cons event between =>
        cases tail
        exact absurd ⟨other, between, rfl, otherApplied⟩
          (not_answered_of_transfer_eq_applied applied same.symm)

theorem balances_of_transfer_eq_applied {ledger : Ledger} (solvent : ledger.Solvent)
    {order : TransferOrder} {source destination : Account}
    (applied : (ledger.transfer order).1 = .ok (.applied source destination)) :
    ∃ payer payee, ledger.account? order.source = some payer ∧
      ledger.account? order.destination = some payee ∧
      source.balance.value = payer.balance.value - order.amount.value ∧
      destination.balance.value = payee.balance.value + order.amount.value := by
  rcases asked : ledger.transfer order with ⟨answer, after⟩
  rw [asked] at applied
  cases transferCase asked with
  | malformed _ _ | offline _ _ | refused _ _ _ _ _ _ => cases applied
  | decided earlier _ _ _ => cases earlier <;> cases applied
  | applied movement shape _ _ sourceFound destinationFound =>
      cases applied
      obtain ⟨debited, credited⟩ := movement.values_after shape
        (solvent _ _ sourceFound) (solvent _ _ destinationFound)
      exact ⟨movement.source, movement.destination, sourceFound, destinationFound, debited,
        credited⟩

end Clearing.Ledger
