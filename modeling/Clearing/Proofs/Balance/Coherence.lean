import Clearing.Proofs.Balance.Inquiries
import Clearing.Proofs.Ledger.Conservation
import Clearing.Proofs.World.Disturbances
/-!
Cached balances when calls do not overlap.  Every settlement drops what the cache has about the
accounts that it moved an amount between, and nothing is cached but the row that stands, so that
what is cached is current whenever a call is over.
-/

namespace Clearing

/-- The accounts whose cached balances are still to be dropped. -/
def DeliveryStage.toDrop : DeliveryStage → List String
  | .receive _ | .record _ _ _ => []
  | .dropSource order => [order.source, order.destination]
  | .dropDestination order => [order.destination]

@[simp]
def DeliveryStage.stepsLeft : DeliveryStage → Nat
  | .receive _ => 4
  | .dropSource _ => 3
  | .dropDestination _ => 2
  | .record _ _ _ => 1

@[simp]
def InquiryStage.stepsLeft : InquiryStage → Nat
  | .readCache _ => 3
  | .readLedger _ => 2
  | .writeCache _ _ => 1

namespace Delivery

def toDrop : Delivery → List String
  | .running stage => stage.toDrop
  | .answered _ => []

theorem toDrop_conclude (id : String) (disposition : Disposition) :
    (conclude id disposition).toDrop = [] ∧
      (conclude id disposition).left DeliveryStage.stepsLeft ≤ 1 := by
  unfold conclude
  cases disposition.resolvedStatus with
  | none => exact ⟨rfl, Nat.zero_le 1⟩
  | some status => exact ⟨rfl, Nat.le_refl 1⟩

theorem left_ofResult (order : TransferOrder)
    (result : Except LedgerError TransferOutcome) :
    (ofResult order result).left DeliveryStage.stepsLeft ≤ 3 := by
  have concluded (disposition : Disposition) :
      (conclude order.id disposition).left DeliveryStage.stepsLeft ≤ 3 :=
    (toDrop_conclude order.id disposition).2.trans (by decide)
  rcases result with error | (_ | _)
  · rw [ofResult]
    split
    · exact Nat.zero_le 3
    · exact concluded _
  · exact Nat.le_refl 3
  · exact concluded .alreadySettled

end Delivery

/--
Every connection works, and what is cached of an account is its row as it stands, unless the
account is one of those that have changed.
-/
structure World.Coherent (world : World) (changed : List String) : Prop where
  available : world.faults = .none
  keyed : world.ledger.Keyed
  cached : ∀ account, account ∉ changed → ∀ entry,
    world.store.entries.get? (BalanceCache.key account) = some entry →
      ∃ row, world.ledger.account? account = some row ∧ entry.value = row.snapshot.encode

namespace World

/-- What an inquiry is answered with: the row as it stands, or why there is none to tell. -/
inductive BalanceAnswer (world : World) (account : String) :
    Except ServiceError BalanceView → Prop where
  | reported (row : Account) (view : BalanceView) :
      world.ledger.account? account = some row → view.Reports row →
      BalanceAnswer world account (.ok view)
  | absent :
      world.ledger.online = true → world.ledger.account? account = none →
      BalanceAnswer world account (.error (.notFound "account not found"))
  | unreachable :
      world.ledger.online = false →
      (world.store.get (BalanceCache.key account) world.now).1 = none →
      BalanceAnswer world account (.error (.internal "failed to read balance"))

namespace Coherent

variable {world next : World} {changed : List String}

/-- Nothing becomes stale where neither rows change nor balances are cached. -/
theorem of_kept (coherent : world.Coherent changed) (faults : next.faults = world.faults)
    (accounts : next.ledger.accounts = world.ledger.accounts)
    (kept : ∀ account entry,
      next.store.entries.get? (BalanceCache.key account) = some entry →
        world.store.entries.get? (BalanceCache.key account) = some entry) :
    next.Coherent changed where
  available := faults.trans coherent.available
  keyed id account found := by
    rw [Ledger.account?, accounts] at found
    exact coherent.keyed id account found
  cached account unchanged entry found := by
    rw [Ledger.account?, accounts]
    exact coherent.cached account unchanged entry (kept account entry found)

theorem dropBalance {account : String} (coherent : world.Coherent (account :: changed)) :
    (world.dropBalance account).2.Coherent changed := by
  have dropped : (world.dropBalance account).2 =
      { world with store := world.store.delete (BalanceCache.key account) } := by
    rw [World.dropBalance, cacheDelete, coherent.available]
    rfl
  rw [dropped]
  refine ⟨coherent.available, coherent.keyed, fun other unchanged entry found => ?_⟩
  dsimp only at found
  rw [Store.entries_delete] at found
  split at found
  · cases found
  · rename_i different
    refine coherent.cached other (fun member => ?_) entry found
    rcases List.mem_cons.mp member with same | later
    · exact different (congrArg BalanceCache.key same)
    · exact unchanged later

/-- After a transfer, only the accounts of an applied order can be stale. -/
theorem transfer (coherent : world.Coherent []) (order : TransferOrder) :
    { world with ledger := (world.ledger.transfer order).2 }.Coherent
      (Delivery.ofResult order (world.ledger.transfer order).1).toDrop := by
  refine ⟨coherent.available, coherent.keyed.transfer order,
    fun account unchanged entry found => ?_⟩
  dsimp only at found ⊢
  rcases Ledger.account?_transfer_eq_or coherent.keyed order account with
    same | ⟨⟨source, destination, applied⟩, moved⟩
  · rw [same]
    exact coherent.cached account (List.not_mem_nil) entry found
  · rw [applied] at unchanged
    refine absurd ?_ unchanged
    rcases moved with rfl | rfl
    · exact List.mem_cons_self
    · exact List.mem_cons_of_mem _ List.mem_cons_self

theorem deliver {stage : DeliveryStage} (coherent : world.Coherent stage.toDrop)
    (sink : StatusSink) :
    (Delivery.step sink world stage).2.Coherent (Delivery.step sink world stage).1.toDrop ∧
      (Delivery.step sink world stage).1.left DeliveryStage.stepsLeft < stage.stepsLeft := by
  have answers : ¬ world.faults.cacheSilent = true ∧ ¬ world.faults.ledgerSilent = true := by
    rw [coherent.available]
    decide
  cases stage with
  | receive payload =>
      cases decoded : SettlementEvent.decode payload with
      | error fault =>
          rw [Delivery.step, decoded]
          exact ⟨coherent, by simp⟩
      | ok event =>
          cases ordered : event.order? with
          | none =>
              obtain ⟨nothing, nearer⟩ := Delivery.toDrop_conclude event.id
                (.rejected Delivery.unsupportedCurrency)
              rw [Delivery.step_receive_unsupported sink world decoded ordered]
              dsimp only
              rw [nothing]
              exact ⟨coherent, by simp only [DeliveryStage.stepsLeft]; omega⟩
          | some order =>
              have nearer := Delivery.left_ofResult order (world.ledger.transfer order).1
              rw [Delivery.step_receive sink world decoded ordered, if_neg answers.2]
              exact ⟨coherent.transfer order, by simp only [DeliveryStage.stepsLeft]; omega⟩
  | dropSource order =>
      rw [Delivery.step, if_neg answers.1]
      exact ⟨coherent.dropBalance, by simp⟩
  | dropDestination order =>
      obtain ⟨nothing, nearer⟩ := Delivery.toDrop_conclude order.id .settled
      rw [Delivery.step, if_neg answers.1]
      dsimp only
      rw [nothing]
      exact ⟨coherent.dropBalance, by simp only [DeliveryStage.stepsLeft]; omega⟩
  | record id status disposition =>
      cases sink with
      | book => exact ⟨coherent.of_kept rfl rfl fun _ _ found => found, Nat.one_pos⟩
      | log => exact ⟨coherent, Nat.one_pos⟩

theorem intake (coherent : world.Coherent changed) (settings : IntakeSettings)
    (stage : IntakeStage) : (Intake.step settings world stage).2.Coherent changed := by
  obtain ⟨ledger, faults⟩ := Intake.ledger_step settings world stage
  refine coherent.of_kept faults (congrArg Ledger.accounts ledger) fun account entry found => ?_
  rw [Intake.entries_step settings world stage (BalanceCache.key_ne_key account)] at found
  exact found

theorem cacheRow (coherent : world.Coherent []) {account : String} {row : Account}
    (stands : world.ledger.account? account = some row) (lifetime : Nat) :
    { world with
      store := world.store.set (BalanceCache.key account) row.snapshot.encode lifetime
        world.now }.Coherent [] := by
  refine ⟨coherent.available, coherent.keyed, fun other unchanged entry found => ?_⟩
  dsimp only at found
  rw [Store.entries_set] at found
  split at found
  · rename_i same
    cases found
    rw [BalanceCache.key_injective same]
    exact ⟨row, stands, rfl⟩
  · exact coherent.cached other unchanged entry found

theorem exists_row (coherent : world.Coherent []) {account : String} {entry : StoreEntry}
    (found : world.store.entries.get? (BalanceCache.key account) = some entry) :
    ∃ row snapshot, world.ledger.account? account = some row ∧
      Snapshot.decode entry.value = .ok snapshot ∧ (snapshot.view account).Reports row := by
  obtain ⟨row, stands, written⟩ := coherent.cached account List.not_mem_nil entry found
  refine ⟨row, row.snapshot.plain, stands, ?_, ?_⟩
  · rw [written]
    exact row.snapshot.decode_encode
  · rw [← coherent.keyed account row stands]
    exact Snapshot.reports_view_plain row

end Coherent

/-- How far an inquiry has come that began in a world and has had it to itself. -/
inductive Answering (start : World) (account : String) : World → Inquiry → Prop where
  | begun : Answering start account start (.running (.readCache account))
  | missed (store : Store) :
      (start.store.get (BalanceCache.key account) start.now).1 = none →
      Answering start account { start with store } (.running (.readLedger account))
  | found (store : Store) (row : Account) :
      start.ledger.account? account = some row →
      Answering start account { start with store } (.running (.writeCache account row))
  | answered (store : Store) (answer : Except ServiceError BalanceView) :
      start.BalanceAnswer account answer →
      Answering start account { start with store } (.answered answer)

variable {start world : World} {account : String}

theorem Answering.step {stage : InquiryStage} (lifetime : Nat)
    (answering : start.Answering account world (.running stage))
    (coherent : world.Coherent []) :
    (Inquiry.step lifetime world stage).2.Coherent [] ∧
      start.Answering account (Inquiry.step lifetime world stage).2
        (Inquiry.step lifetime world stage).1 ∧
      (Inquiry.step lifetime world stage).1.left InquiryStage.stepsLeft < stage.stepsLeft := by
  have taken := Inquiry.stepCase lifetime world stage
  generalize Inquiry.step lifetime world stage = result at taken ⊢
  rcases result with ⟨call, after⟩
  dsimp only at taken ⊢
  cases taken with
  | silent stage silent =>
      rw [coherent.available] at silent
      exact absurd silent (by decide)
  | hit _ entry snapshot present live decoded =>
      -- nothing has happened since the inquiry began, so the entry is as old as the world
      cases answering
      obtain ⟨row, other, stands, read, reports⟩ := coherent.exists_row present
      rw [decoded] at read
      cases read
      exact ⟨coherent, .answered start.store _ (.reported row _ stands reports), by simp⟩
  | missed _ store kept unread =>
      cases answering
      refine ⟨coherent.of_kept rfl rfl fun account entry found => kept _ entry found,
        .missed store ?_, by simp⟩
      -- a coherent entry is readable, so it was missed because it is absent or has expired
      refine Option.eq_none_iff_forall_ne_some.mpr fun bytes seen => ?_
      obtain ⟨entry, present, live, rfl⟩ := (Store.get_eq_some_iff _ _ _ _).mp seen
      obtain ⟨row, snapshot, stands, read, reports⟩ := coherent.exists_row present
      exact unread (congrArg Faults.cacheRead coherent.available) entry snapshot present live read
  | unreachable _ offline =>
      cases answering with
      | missed store nothing =>
          exact ⟨coherent, .answered store _ (.unreachable offline nothing), by simp⟩
  | absent _ online nobody =>
      cases answering with
      | missed store nothing =>
          exact ⟨coherent, .answered store _ (.absent online nobody), by simp⟩
  | found _ row online stands =>
      cases answering with
      | missed store nothing => exact ⟨coherent, .found store row stands, by simp⟩
  | unwritten _ row =>
      cases answering with
      | found store _ stands =>
          exact ⟨coherent, .answered store _ (.reported row _ stands row.reports_view), by simp⟩
  | written _ row =>
      cases answering with
      | found store _ stands =>
          exact ⟨coherent.cacheRow stands lifetime,
            .answered _ _ (.reported row _ stands row.reports_view), by simp⟩

theorem Coherent.checkBalance (coherent : world.Coherent []) (lifetime : Nat) {asked : String}
    (named : Text.trim asked ≠ "") :
    ∃ answer, (world.checkBalance lifetime asked).1 = .answered answer ∧
      world.BalanceAnswer (Text.trim asked) answer ∧
      (world.checkBalance lifetime asked).2.Coherent [] := by
  obtain ⟨answer, after, run, answering, stays⟩ :=
    Call.exists_answer_of_run
      (fun after call => world.Answering (Text.trim asked) after call ∧ after.Coherent [])
      InquiryStage.stepsLeft
      (fun after stage held => by
        obtain ⟨stays, next, nearer⟩ := held.1.step lifetime held.2
        exact ⟨⟨next, stays⟩, nearer⟩)
      Inquiry.steps ⟨.begun, coherent⟩ (Nat.le_refl 3)
  rw [World.checkBalance, Inquiry.begin_of_named named, run]
  cases answering with
  | answered store _ told => exact ⟨answer, rfl, told, stays⟩

theorem Coherent.settle (coherent : world.Coherent []) (sink : StatusSink) (payload : Bytes) :
    ∃ disposition, (world.settle sink payload).1 = .answered disposition ∧
      (world.settle sink payload).2.Coherent [] := by
  have begun : world.Coherent (Delivery.begin payload).toDrop := coherent
  obtain ⟨disposition, after, run, stays⟩ :=
    Call.exists_answer_of_run (fun after call => after.Coherent (Delivery.toDrop call))
      DeliveryStage.stepsLeft (fun after stage held => held.deliver sink) Delivery.steps
      begun (Nat.le_refl 4)
  rw [World.settle, run]
  exact ⟨disposition, rfl, stays⟩

end World

/-- The disturbances that leave rows, the cache and the connections to it alone. -/
def Disturbance.SparesBalances : Disturbance → Prop
  | .openAccount _ | .setFaults _ | .setCache _ => False
  | .setLedger _ | .setBook _ | .setBroker _ | .setClock _ _ _ => True

/-- A call that is over before the next one begins. -/
inductive CompletedCall where
  | settle (sink : StatusSink) (payload : Bytes)
  | inquire (lifetime : Nat) (asked : String)
  | pay (settings : IntakeSettings) (traced : TracedRequest)
  /-- Expired entries of the cache are removed. -/
  | purge
  /-- Time passes, or a database or the broker is lost or comes back. -/
  | disturb (disturbance : Disturbance) (spares : disturbance.SparesBalances)

namespace World

def withAccounts (partitions : Int) (accounts : List (String × Currency × Decimal)) : World :=
  { ofPartitions partitions with
    ledger := accounts.foldl
      (fun ledger account => ledger.openAccount account.1 account.2.1 account.2.2) .empty }

def complete (world : World) : CompletedCall → World
  | .settle sink payload => (world.settle sink payload).2
  | .inquire lifetime asked => (world.checkBalance lifetime asked).2
  | .pay settings traced => (world.initiatePayment settings traced).2
  | .purge => world.cachePurge.2
  | .disturb disturbance _ => world.disturb disturbance

def afterCompleted (world : World) (calls : List CompletedCall) : World :=
  calls.foldl complete world

theorem keyed_withAccounts (partitions : Int)
    (accounts : List (String × Currency × Decimal)) :
    (withAccounts partitions accounts).ledger.Keyed := by
  dsimp only [withAccounts]
  induction accounts using List.reverseRecOn with
  | nil => exact Ledger.keyed_empty
  | append_singleton accounts account inductionHypothesis =>
      rw [List.foldl_append]
      exact inductionHypothesis.openAccount _ _ _

theorem coherent_withAccounts (partitions : Int)
    (accounts : List (String × Currency × Decimal)) :
    (withAccounts partitions accounts).Coherent [] where
  available := rfl
  keyed := keyed_withAccounts partitions accounts
  cached account _ entry found := by cases found

theorem Coherent.complete {world : World} (coherent : world.Coherent []) (call : CompletedCall) :
    (world.complete call).Coherent [] := by
  cases call with
  | settle sink payload =>
      obtain ⟨_, _, stays⟩ := coherent.settle sink payload
      exact stays
  | inquire lifetime asked =>
      by_cases blank : Text.trim asked = ""
      · rw [World.complete, World.checkBalance, Inquiry.begin_of_blank blank, Call.run_answered]
        exact coherent
      · obtain ⟨_, _, _, stays⟩ := coherent.checkBalance lifetime blank
        exact stays
  | pay settings traced =>
      have stays (world : World) (stage : IntakeStage) (held : world.Coherent []) :=
        held.intake settings stage
      exact Call.run_preserves stays Intake.steps coherent (Intake.begin traced)
  | purge =>
      obtain ⟨ledger, faults⟩ := world.ledger_cachePurge
      exact coherent.of_kept faults (congrArg Ledger.accounts ledger)
        fun _ _ found => world.kept_cachePurge found
  | disturb disturbance spares =>
      cases disturbance with
      | setLedger _ | setBook _ | setBroker _ | setClock _ _ _ =>
          exact coherent.of_kept rfl rfl fun _ _ found => found
      | openAccount _ | setFaults _ | setCache _ => cases spares

theorem Coherent.afterCompleted {world : World} (coherent : world.Coherent [])
    (calls : List CompletedCall) : (world.afterCompleted calls).Coherent [] := by
  induction calls generalizing world with
  | nil => exact coherent
  | cons call rest inductionHypothesis => exact inductionHypothesis (coherent.complete call)

theorem receipts_checkBalance (world : World) (lifetime : Nat) (asked key : String) :
    (world.checkBalance lifetime asked).2.store.entries.get? (Idempotency.key key) =
      world.store.entries.get? (Idempotency.key key) := by
  have foreign (account : String) := (BalanceCache.key_ne_key account key).symm
  rcases ran : world.checkBalance lifetime asked with ⟨call, after⟩
  exact Call.run_keeps (fun world => world.store.entries.get? (Idempotency.key key))
    (fun world stage => Inquiry.entries_step lifetime world stage foreign) ran

theorem receipts_settle (world : World) (sink : StatusSink) (payload : Bytes) (key : String) :
    (world.settle sink payload).2.store.entries.get? (Idempotency.key key) =
      world.store.entries.get? (Idempotency.key key) := by
  have foreign (account : String) := (BalanceCache.key_ne_key account key).symm
  rcases ran : world.settle sink payload with ⟨call, after⟩
  exact Call.run_keeps (fun world => world.store.entries.get? (Idempotency.key key))
    (fun world stage => (Delivery.effect_step sink world stage).entries foreign) ran

theorem balances_initiatePayment (world : World) (settings : IntakeSettings)
    (traced : TracedRequest) (account : String) :
    (world.initiatePayment settings traced).2.store.entries.get? (BalanceCache.key account) =
      world.store.entries.get? (BalanceCache.key account) := by
  rcases ran : world.initiatePayment settings traced with ⟨call, after⟩
  exact Call.run_keeps (fun world => world.store.entries.get? (BalanceCache.key account))
    (fun world stage =>
      Intake.entries_step settings world stage (BalanceCache.key_ne_key account)) ran

/--
When calls do not overlap and the cache works, every balance that can be read from the cache is
the one of the row that stands, an inquiry is answered with that row whether or not it finds it
in the cache, and neither balances nor receipts disturb each other in the cache they share.
-/
theorem cached_balances_current (partitions : Int)
    (accounts : List (String × Currency × Decimal)) (calls : List CompletedCall) :
    let world := (withAccounts partitions accounts).afterCompleted calls
    (∀ account bytes,
      (world.store.get (BalanceCache.key account) world.now).1 = some bytes →
        ∃ row snapshot, world.ledger.account? account = some row ∧
          Snapshot.decode bytes = .ok snapshot ∧ (snapshot.view account).Reports row) ∧
    (∀ lifetime asked, Text.trim asked ≠ "" →
      ∃ answer, (world.checkBalance lifetime asked).1 = .answered answer ∧
        world.BalanceAnswer (Text.trim asked) answer) ∧
    (∀ sink payload, ∃ disposition, (world.settle sink payload).1 = .answered disposition) ∧
    (∀ lifetime asked key,
      (world.checkBalance lifetime asked).2.store.entries.get? (Idempotency.key key) =
        world.store.entries.get? (Idempotency.key key)) ∧
    (∀ sink payload key,
      (world.settle sink payload).2.store.entries.get? (Idempotency.key key) =
        world.store.entries.get? (Idempotency.key key)) ∧
    ∀ settings traced account,
      (world.initiatePayment settings traced).2.store.entries.get? (BalanceCache.key account) =
        world.store.entries.get? (BalanceCache.key account) := by
  have coherent := (coherent_withAccounts partitions accounts).afterCompleted calls
  generalize (withAccounts partitions accounts).afterCompleted calls = world at coherent ⊢
  refine ⟨fun account bytes seen => ?_, fun lifetime asked named => ?_, fun sink payload => ?_,
    fun lifetime asked key => world.receipts_checkBalance lifetime asked key,
    fun sink payload key => world.receipts_settle sink payload key,
    fun settings traced account => world.balances_initiatePayment settings traced account⟩
  · obtain ⟨entry, found, live, rfl⟩ := (Store.get_eq_some_iff _ _ _ _).mp seen
    exact coherent.exists_row found
  · obtain ⟨answer, answered, told, _⟩ := coherent.checkBalance lifetime named
    exact ⟨answer, answered, told⟩
  · obtain ⟨disposition, answered, _⟩ := coherent.settle sink payload
    exact ⟨disposition, answered⟩

def emptyPayee : List (String × Currency × Decimal) :=
  [("a", .dollar, maximumAmount), ("b", .dollar, .zero)]

def smallEvent : SettlementEvent where
  id := Ledger.smallOrder.id
  source := Ledger.smallOrder.source
  destination := Ledger.smallOrder.destination
  amount := Ledger.smallOrder.amount
  currency := Ledger.smallOrder.currency.code
  timestamp := .sample

/-- What is cached by default at first is about to expire. -/
def almostExpired : Disturbance :=
  .setClock (59 * 10 ^ 9) .sample (by decide)

/-- The payment arrives between two inquiries, and a while passes. -/
def paidBetween : List CompletedCall :=
  [.inquire BalanceCache.defaultLifetime "b", .settle .log smallEvent.encode,
    .inquire BalanceCache.defaultLifetime " b ",
    .disturb almostExpired trivial]

/-- What is in the cache is the balance after the payment. -/
theorem cached_balances_current_paidBetween :
    let world := (withAccounts 1 emptyPayee).afterCompleted paidBetween
    (world.ledger.account? "b").map Account.balance = some Ledger.smallOrder.amount ∧
      ∃ bytes row snapshot,
        (world.store.get (BalanceCache.key "b") world.now).1 = some bytes ∧
        world.ledger.account? "b" = some row ∧ Snapshot.decode bytes = .ok snapshot ∧
        (snapshot.view "b").Reports row := by
  intro world
  have paid : (world.ledger.account? "b").map Account.balance =
      some Ledger.smallOrder.amount := by
    decide +kernel
  have cached : (world.store.get (BalanceCache.key "b") world.now).1.isSome := by
    decide +kernel
  obtain ⟨bytes, seen⟩ := Option.isSome_iff_exists.mp cached
  obtain ⟨row, snapshot, current⟩ :=
    (cached_balances_current 1 emptyPayee paidBetween).1 "b" bytes seen
  exact ⟨paid, bytes, row, snapshot, seen, current⟩

end World

end Clearing
