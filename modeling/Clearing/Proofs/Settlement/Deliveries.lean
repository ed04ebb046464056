import Clearing.Proofs.Ledger.Decisions
import Clearing.Proofs.Service.Call
import Clearing.Settlement.Delivery
/-!
What becomes of a delivered event.  The answer of the ledger decides it in one step, and the
steps after that only report what was decided: the cached balances of a settled order are
dropped, and the status of the payment is recorded.
-/

namespace Clearing

/-- What an answer of the ledger makes of a delivery. -/
def Disposition.ofAnswer : Except LedgerError TransferOutcome → Disposition
  | .ok (.applied _ _) => .settled
  | .ok .alreadySettled => .alreadySettled
  | .error error =>
      if error.isTransient then .deferred else .rejected error.code

theorem Disposition.ofAnswer_eq_settled_iff
    {answer : Except LedgerError TransferOutcome} :
    ofAnswer answer = .settled ↔
      ∃ source destination, answer = .ok (.applied source destination) := by
  rcases answer with error | (⟨source, destination⟩ | _)
  · constructor
    · intro settled
      rw [ofAnswer] at settled
      split at settled <;> cases settled
    · rintro ⟨_, _, applied⟩
      cases applied
  · exact ⟨fun _ => ⟨source, destination, rfl⟩, fun _ => rfl⟩
  · exact ⟨nofun, nofun⟩

namespace SettlementEvent

def order? (event : SettlementEvent) : Option TransferOrder :=
  (Currency.parse? event.currency).map event.order

/-- What a ledger that answers makes of an event. -/
def verdict (event : SettlementEvent) (ledger : Ledger) : Disposition :=
  match event.order? with
  | some order => .ofAnswer (ledger.transfer order).1
  | none => .rejected Delivery.unsupportedCurrency

/-- The ledger after it has been told of an event. -/
def ledgerAfter (event : SettlementEvent) (ledger : Ledger) : Ledger :=
  match event.order? with
  | some order => (ledger.transfer order).2
  | none => ledger

theorem verdict_of_order?_eq_some {event : SettlementEvent} {order : TransferOrder}
    (ordered : event.order? = some order) (ledger : Ledger) :
    event.verdict ledger = .ofAnswer (ledger.transfer order).1 ∧
      event.ledgerAfter ledger = (ledger.transfer order).2 := by
  delta verdict ledgerAfter
  rw [ordered]
  exact ⟨rfl, rfl⟩

theorem verdict_of_order?_eq_none {event : SettlementEvent}
    (unordered : event.order? = none) (ledger : Ledger) :
    event.verdict ledger = .rejected Delivery.unsupportedCurrency ∧
      event.ledgerAfter ledger = ledger := by
  delta verdict ledgerAfter
  rw [unordered]
  exact ⟨rfl, rfl⟩

theorem id_of_order?_eq_some
    {event : SettlementEvent} {order : TransferOrder}
    (ordered : event.order? = some order) :
    order.id = event.id := by
  obtain ⟨currency, _, rfl⟩ := Option.map_eq_some_iff.mp ordered
  rfl

theorem exists_order_of_verdict_eq_settled {event : SettlementEvent} {ledger : Ledger}
    (settled : event.verdict ledger = .settled) :
    ∃ order source destination, event.order? = some order ∧
      (ledger.transfer order).1 = .ok (.applied source destination) := by
  cases ordered : event.order? with
  | none =>
      rw [(verdict_of_order?_eq_none ordered ledger).1] at settled
      cases settled
  | some order =>
      rw [(verdict_of_order?_eq_some ordered ledger).1] at settled
      obtain ⟨source, destination, applied⟩ := Disposition.ofAnswer_eq_settled_iff.mp settled
      exact ⟨order, source, destination, rfl, applied⟩

end SettlementEvent

namespace World

/-- The world after a disposition has been recorded. -/
def recorded (world : World) (sink : StatusSink) (id : String) (disposition : Disposition) :
    World :=
  match sink, disposition.resolvedStatus with
  | .book, some status => (world.updateStatus id status).2
  | .book, none | .log, _ => world

def dropBalances (world : World) (source destination : String) : World :=
  ((world.dropBalance source).2.dropBalance destination).2

/-- The world after the disposition of an order has been passed on to the cache and the book. -/
def reported (world : World) (sink : StatusSink) (id source destination : String)
    (disposition : Disposition) : World :=
  (if disposition = .settled then
    world.dropBalances source destination
  else
    world).recorded sink id disposition

/-- The world after a delivered event has been dealt with in one go. -/
def settled (world : World) (sink : StatusSink) (event : SettlementEvent) : World :=
  { world with ledger := event.ledgerAfter world.ledger }.reported sink
    event.id event.source event.destination (event.verdict world.ledger)

theorem dropBalances_eq (world : World) (source destination : String) :
    world.dropBalances source destination =
      { world with store := (world.dropBalances source destination).store } := by
  cases down : world.faults.cacheDelete with
  | none => simp only [dropBalances, dropBalance, cacheDelete, down]
  | some error => simp only [dropBalances, dropBalance, cacheDelete, down]

theorem recorded_eq (world : World) (sink : StatusSink) (id : String)
    (disposition : Disposition) :
    world.recorded sink id disposition =
      { world with book := (world.recorded sink id disposition).book } := by
  unfold recorded
  cases sink <;> cases disposition.resolvedStatus <;> rfl

theorem reported_eq (world : World) (sink : StatusSink) (id source destination : String)
    (disposition : Disposition) :
    world.reported sink id source destination disposition =
      { world with
        book := (world.reported sink id source destination disposition).book
        store := (world.reported sink id source destination disposition).store } := by
  unfold reported
  rw [recorded_eq]
  split
  · rw [dropBalances_eq]
  · rfl

theorem ledger_reported (world : World) (sink : StatusSink) (id source destination : String)
    (disposition : Disposition) :
    (world.reported sink id source destination disposition).ledger = world.ledger := by
  rw [reported_eq]

end World

namespace Delivery

variable (sink : StatusSink) (world : World)

theorem run_conclude (steps : Nat) (id : String) (disposition : Disposition) :
    Call.run (step sink) (steps + 1) world (conclude id disposition) =
      (.answered disposition, world.recorded sink id disposition) := by
  rw [conclude]
  unfold World.recorded
  cases disposition.resolvedStatus with
  | none => cases sink <;> exact Call.run_answered _ world disposition
  | some status => cases sink <;> exact Call.run_answered steps _ disposition

@[simp]
theorem ledger_dropBalance (world : World) (account : String) :
    (world.dropBalance account).2.ledger = world.ledger := by
  simp only [World.dropBalance, World.cacheDelete]
  split <;> rfl

@[simp]
theorem faults_dropBalance (world : World) (account : String) :
    (world.dropBalance account).2.faults = world.faults := by
  simp only [World.dropBalance, World.cacheDelete]
  split <;> rfl

theorem run_begin_of_decode_eq_error {payload : Bytes} {fault : Json.Fault}
    (unreadable : SettlementEvent.decode payload = .error fault) (steps : Nat) :
    Call.run (step sink) (steps + 1) world (begin payload) = (.answered .poison, world) := by
  rw [begin, Call.run_succ_running, step, unreadable]
  exact Call.run_answered steps world Disposition.poison

/-- After a transfer the balances of its accounts are dropped, and its outcome is recorded. -/
theorem run_ofResult (order : TransferOrder) (result : Except LedgerError TransferOutcome)
    (answers : Disposition.ofAnswer result = .settled → world.faults.cacheSilent = false) :
    Call.run (step sink) 3 world (ofResult order result) =
      (.answered (.ofAnswer result),
        world.reported sink order.id order.source order.destination (.ofAnswer result)) := by
  rcases result with error | (_ | _)
  · rw [ofResult, Disposition.ofAnswer]
    split
    · cases sink <;> rfl
    · exact run_conclude sink world 2 order.id (.rejected error.code)
  · have first : step sink world (.dropSource order) =
        (.running (.dropDestination order), (world.dropBalance order.source).2) :=
      if_neg (by simp [answers rfl])
    have second : step sink (world.dropBalance order.source).2 (.dropDestination order) =
        (conclude order.id .settled, world.dropBalances order.source order.destination) :=
      if_neg (by simp [answers rfl])
    rw [ofResult, Call.run_succ_running, first, Call.run_succ_running, second, run_conclude]
    rfl
  · exact run_conclude sink world 2 order.id .alreadySettled

theorem run_ofResult_of_silent (silent : world.faults.cacheSilent = true)
    (order : TransferOrder) {result : Except LedgerError TransferOutcome}
    (settled : Disposition.ofAnswer result = .settled) (steps : Nat) :
    Call.run (step sink) steps world (ofResult order result) =
      (.running (.dropSource order), world) := by
  obtain ⟨payer, payee, rfl⟩ := Disposition.ofAnswer_eq_settled_iff.mp settled
  exact Call.run_of_silent (if_pos silent) steps

theorem step_receive_unsupported {payload : Bytes} {event : SettlementEvent}
    (decoded : SettlementEvent.decode payload = .ok event)
    (unordered : event.order? = none) :
    step sink world (.receive payload) =
      (conclude event.id (.rejected unsupportedCurrency), world) := by
  rw [step, decoded]
  dsimp only
  rw [Option.map_eq_none_iff.mp unordered]

theorem step_receive {payload : Bytes} {event : SettlementEvent}
    {order : TransferOrder}
    (decoded : SettlementEvent.decode payload = .ok event)
    (ordered : event.order? = some order) :
    step sink world (.receive payload) =
      if world.faults.ledgerSilent then
        (.running (.receive payload), world)
      else
        (ofResult order (world.ledger.transfer order).1,
          { world with ledger := (world.ledger.transfer order).2 }) := by
  obtain ⟨currency, supported, rfl⟩ := Option.map_eq_some_iff.mp ordered
  rw [step, decoded]
  dsimp only
  rw [supported]
  rfl

end Delivery

namespace World

variable {sink : StatusSink} {world : World} {payload : Bytes}
  {event : SettlementEvent}

/-- A delivered event is dealt with, unless a connection never answers. -/
theorem settle_eq_or (sink : StatusSink) (world : World)
    (decoded : SettlementEvent.decode payload = .ok event) :
    world.settle sink payload =
        (.answered (event.verdict world.ledger), world.settled sink event) ∨
      (world.faults.ledgerSilent = true ∨ world.faults.cacheSilent = true) ∧
        ∃ stage, (world.settle sink payload).1 = .running stage := by
  rw [settle, Delivery.begin, Delivery.steps, settled]
  cases ordered : event.order? with
  | none =>
      obtain ⟨verdict, after⟩ :=
        SettlementEvent.verdict_of_order?_eq_none ordered world.ledger
      refine .inl ?_
      rw [Call.run_succ_running, Delivery.step_receive_unsupported sink world decoded ordered,
        verdict, after, reported, if_neg (by decide)]
      exact Delivery.run_conclude sink world 2 event.id (.rejected Delivery.unsupportedCurrency)
  | some order =>
      have first := Delivery.step_receive sink world decoded ordered
      obtain ⟨verdict, after⟩ :=
        SettlementEvent.verdict_of_order?_eq_some ordered world.ledger
      have accounts : order.source = event.source ∧ order.destination = event.destination := by
        obtain ⟨currency, _, rfl⟩ := Option.map_eq_some_iff.mp ordered
        exact ⟨rfl, rfl⟩
      rw [verdict, after, ← accounts.1, ← accounts.2,
        ← SettlementEvent.id_of_order?_eq_some ordered]
      cases ledgerSilent : world.faults.ledgerSilent with
      | true =>
          rw [ledgerSilent, if_pos rfl] at first
          rw [Call.run_of_silent first]
          exact .inr ⟨.inl rfl, _, rfl⟩
      | false =>
          rw [ledgerSilent, if_neg Bool.false_ne_true] at first
          rw [Call.run_succ_running, first]
          let told := { world with ledger := (world.ledger.transfer order).2 }
          by_cases hangs : Disposition.ofAnswer (world.ledger.transfer order).1 = .settled ∧
              world.faults.cacheSilent = true
          · refine .inr ⟨.inr hangs.2, .dropSource order, ?_⟩
            exact congrArg Prod.fst
              (Delivery.run_ofResult_of_silent sink told hangs.2 order hangs.1 3)
          · refine .inl (Delivery.run_ofResult sink told order _ fun settled => ?_)
            exact Bool.eq_false_iff.mpr fun silent => hangs ⟨settled, silent⟩

/--
A delivered event gets the verdict of the ledger, unless a connection never
answers.
-/
theorem settle_cases (sink : StatusSink) (world : World)
    (decoded : SettlementEvent.decode payload = .ok event) :
    (∃ after, world.settle sink payload =
        (.answered (event.verdict world.ledger), after) ∧
      after.ledger = event.ledgerAfter world.ledger) ∨
    (world.faults.ledgerSilent = true ∨ world.faults.cacheSilent = true) ∧
      ∃ stage, (world.settle sink payload).1 = .running stage := by
  refine (settle_eq_or sink world decoded).imp_left fun answered => ?_
  refine ⟨_, answered, ?_⟩
  unfold settled
  rw [ledger_reported]

theorem verdict_of_settle {disposition : Disposition}
    (decoded : SettlementEvent.decode payload = .ok event)
    (answered : (world.settle sink payload).1 = .answered disposition) :
    event.verdict world.ledger = disposition ∧
      (world.settle sink payload).2.ledger = event.ledgerAfter world.ledger := by
  rcases settle_cases sink world decoded with
    ⟨after, settled, same⟩ | ⟨_, stage, running⟩
  · rw [settled] at answered
    rw [settled]
    exact ⟨Call.answered.inj answered, same⟩
  · rw [running] at answered
    cases answered

theorem exists_order_of_settled
    (settled : (world.settle sink payload).1 = .answered .settled) :
    ∃ event order source destination, SettlementEvent.decode payload = .ok event ∧
      event.order? = some order ∧
      (world.ledger.transfer order).1 = .ok (.applied source destination) ∧
      (world.settle sink payload).2.ledger = (world.ledger.transfer order).2 := by
  cases decoded : SettlementEvent.decode payload with
  | error fault =>
      rw [settle, Delivery.steps, Delivery.run_begin_of_decode_eq_error sink world decoded]
        at settled
      cases settled
  | ok event =>
      obtain ⟨verdict, after⟩ := verdict_of_settle decoded settled
      obtain ⟨order, source, destination, ordered, applied⟩ :=
        SettlementEvent.exists_order_of_verdict_eq_settled verdict
      rw [(SettlementEvent.verdict_of_order?_eq_some ordered _).2] at after
      exact ⟨event, order, source, destination, rfl, ordered, applied, after⟩

end World

end Clearing
