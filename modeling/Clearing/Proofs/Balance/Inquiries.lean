import Clearing.Balance.Inquiry
import Clearing.Proofs.Balance.Snapshots
import Clearing.Proofs.Ledger.Rows
import Clearing.Proofs.Payment.Intake
import Clearing.Proofs.Settlement.Deliveries
/-!
What a step of an inquiry can do, and what the services that share a cache leave to each other.
Inquiries and deliveries write no receipts, and the intake writes no balances.
-/

namespace Clearing

namespace Inquiry

theorem begin_of_blank {asked : String} (blank : Text.trim asked = "") :
    begin asked = .answered (.error (.invalidArgument "account_id is required")) :=
  if_pos blank

theorem begin_of_named {asked : String} (named : Text.trim asked ≠ "") :
    begin asked = .running (.readCache (Text.trim asked)) :=
  if_neg named

/-- What a step comes to: the call and the world after it. -/
inductive StepCase (lifetime : Nat) (world : World) :
    InquiryStage → Inquiry → World → Prop where
  | silent (stage : InquiryStage) :
      world.faults.cacheSilent = true ∨ world.faults.ledgerSilent = true →
      StepCase lifetime world stage (.running stage) world
  | hit (account : String) (entry : StoreEntry) (snapshot : Snapshot) :
      world.store.entries.get? (BalanceCache.key account) = some entry →
      world.now < entry.expires →
      Snapshot.decode entry.value = .ok snapshot →
      StepCase lifetime world (.readCache account)
        (.answered (.ok (snapshot.view account))) world
  | missed (account : String) (store : Store) :
      (∀ key entry, store.entries.get? key = some entry →
        world.store.entries.get? key = some entry) →
      (world.faults.cacheRead = none → ∀ entry snapshot,
        world.store.entries.get? (BalanceCache.key account) = some entry →
        world.now < entry.expires → Snapshot.decode entry.value ≠ .ok snapshot) →
      StepCase lifetime world (.readCache account) (.running (.readLedger account))
        { world with store := store }
  | unreachable (account : String) :
      world.ledger.online = false →
      StepCase lifetime world (.readLedger account)
        (.answered (.error (.internal "failed to read balance"))) world
  | absent (account : String) :
      world.ledger.online = true →
      world.ledger.account? account = none →
      StepCase lifetime world (.readLedger account)
        (.answered (.error (.notFound "account not found"))) world
  | found (account : String) (row : Account) :
      world.ledger.online = true →
      world.ledger.account? account = some row →
      StepCase lifetime world (.readLedger account) (.running (.writeCache account row)) world
  | unwritten (account : String) (row : Account) :
      StepCase lifetime world (.writeCache account row) (.answered (.ok row.view)) world
  | written (account : String) (row : Account) :
      StepCase lifetime world (.writeCache account row) (.answered (.ok row.view))
        { world with
          store := world.store.set (BalanceCache.key account) row.snapshot.encode lifetime
            world.now }

theorem stepCase_readCache (lifetime : Nat) (world : World) (account : String) :
    StepCase lifetime world (.readCache account) (step lifetime world (.readCache account)).1
      (step lifetime world (.readCache account)).2 := by
  unfold step World.cachedBalance World.cacheGet
  by_cases silent : world.faults.cacheSilent = true
  · simp only [if_pos silent]
    exact .silent _ (.inl silent)
  · simp only [if_neg silent]
    cases failing : world.faults.cacheRead with
    | some error => exact .missed account world.store (fun _ _ held => held) (by simp [failing])
    | none =>
        rcases world.store.get_cases (BalanceCache.key account) world.now with
          ⟨entry, present, live, read⟩ | ⟨expired, store, read, kept⟩
        · simp only [read]
          cases decoded : Snapshot.decode entry.value with
          | ok snapshot => exact .hit account entry snapshot present live decoded
          | error fault =>
              refine .missed account world.store (fun _ _ held => held) ?_
              intro _ other snapshot again _ legible
              cases present.symm.trans again
              cases decoded.symm.trans legible
        · simp only [read]
          refine .missed account store kept fun _ entry snapshot present live => ?_
          exact absurd live (expired entry present)

theorem stepCase (lifetime : Nat) (world : World) (stage : InquiryStage) :
    StepCase lifetime world stage (step lifetime world stage).1
      (step lifetime world stage).2 := by
  cases stage with
  | readCache account => exact stepCase_readCache lifetime world account
  | readLedger account =>
      unfold step Ledger.read
      by_cases silent : world.faults.ledgerSilent = true
      · simp only [if_pos silent]
        exact .silent _ (.inr silent)
      · simp only [if_neg silent]
        by_cases online : world.ledger.online = true
        · simp only [if_pos online]
          cases found : world.ledger.account? account with
          | none => exact .absent account online found
          | some row => exact .found account row online found
        · simp only [if_neg online]
          exact .unreachable account (by simpa using online)
  | writeCache account row =>
      unfold step World.cacheBalance World.cacheSet
      by_cases silent : world.faults.cacheSilent = true
      · simp only [if_pos silent]
        exact .silent _ (.inl silent)
      · simp only [if_neg silent]
        cases world.faults.cacheWrite with
        | some error => exact .unwritten account row
        | none => exact .written account row

theorem entries_step (lifetime : Nat) (world : World) (stage : InquiryStage) {key : String}
    (foreign : ∀ account, key ≠ BalanceCache.key account) :
    (step lifetime world stage).2.store.entries.get? key = world.store.entries.get? key := by
  cases stage with
  | readCache account =>
      have read := world.entries_cacheGet (foreign account)
      rw [step, World.cachedBalance]
      split
      · rfl
      · rcases told : world.cacheGet (BalanceCache.key account) with ⟨_ | _ | bytes, after⟩ <;>
          rw [told] at read
        · exact read
        · exact read
        · dsimp only
          cases Snapshot.decode bytes <;> exact read
  | readLedger account =>
      rw [step]
      split
      · rfl
      · rcases world.ledger.read account with _ | _ | row <;> rfl
  | writeCache account row =>
      have write := world.entries_cacheSet (foreign account) row.snapshot.encode lifetime
      rw [step]
      split
      · rfl
      · exact write

theorem ledger_step (lifetime : Nat) (world : World) (stage : InquiryStage) :
    (step lifetime world stage).2.ledger = world.ledger := by
  have taken := stepCase lifetime world stage
  generalize step lifetime world stage = result at taken ⊢
  rcases result with ⟨call, after⟩
  cases taken <;> rfl

theorem entries_step_cases {lifetime : Nat} {world : World} {stage : InquiryStage}
    {account : String} {entry : StoreEntry}
    (found : (step lifetime world stage).2.store.entries.get? (BalanceCache.key account) =
      some entry) :
    world.store.entries.get? (BalanceCache.key account) = some entry ∨
      ∃ row, stage = .writeCache account row ∧
        entry = ⟨row.snapshot.encode, world.now + lifetime⟩ := by
  have taken := stepCase lifetime world stage
  generalize step lifetime world stage = result at taken found
  rcases result with ⟨call, after⟩
  dsimp only at taken found
  cases taken with
  | missed _ store kept unread => exact .inl (kept _ entry found)
  | written other row =>
      dsimp only at found
      rw [Store.entries_set] at found
      split at found
      · rename_i same
        cases found
        exact .inr ⟨row, by rw [BalanceCache.key_injective same], rfl⟩
      · exact .inl found
  | silent _ _ | hit _ _ _ _ _ _ | unreachable _ _ | absent _ _ _ | found _ _ _ _
  | unwritten _ _ => exact .inl found

end Inquiry

namespace Delivery

inductive Effect (world : World) : World → Prop where
  | nothing : Effect world world
  | transferred (order : TransferOrder) :
      Effect world { world with ledger := (world.ledger.transfer order).2 }
  | dropped (account : String) : Effect world (world.dropBalance account).2
  | recorded (book : PaymentBook) : Effect world { world with book := book }

theorem effect_step (sink : StatusSink) (world : World) (stage : DeliveryStage) :
    Effect world (step sink world stage).2 := by
  cases stage with
  | receive payload =>
      cases decoded : SettlementEvent.decode payload with
      | error fault =>
          rw [step, decoded]
          exact .nothing
      | ok event =>
          cases ordered : event.order? with
          | none =>
              rw [step_receive_unsupported sink world decoded ordered]
              exact .nothing
          | some order =>
              rw [step_receive sink world decoded ordered]
              split
              · exact .nothing
              · exact .transferred order
  | dropSource order | dropDestination order =>
      rw [step]
      split
      · exact .nothing
      · exact .dropped _
  | record id status disposition =>
      cases sink with
      | book => exact .recorded _
      | log => exact .nothing

variable {world after : World}

theorem Effect.entries (effect : Effect world after) {key : String}
    (foreign : ∀ account, key ≠ BalanceCache.key account) :
    after.store.entries.get? key = world.store.entries.get? key := by
  cases effect with
  | dropped account => exact world.entries_cacheDelete (foreign account)
  | nothing | transferred _ | recorded _ => rfl

theorem Effect.kept (effect : Effect world after) {key : String} {entry : StoreEntry}
    (found : after.store.entries.get? key = some entry) :
    world.store.entries.get? key = some entry := by
  cases effect with
  | dropped account => exact world.kept_cacheDelete found
  | nothing | transferred _ | recorded _ => exact found

theorem Effect.keyed (effect : Effect world after) (keyed : world.ledger.Keyed) :
    after.ledger.Keyed := by
  cases effect with
  | nothing | recorded _ => exact keyed
  | transferred order => exact keyed.transfer order
  | dropped account =>
      rw [ledger_dropBalance]
      exact keyed

end Delivery

namespace Intake

theorem entries_step_of_ne (settings : IntakeSettings) (world : World) (stage : IntakeStage)
    {key : String} (different : key ≠ Idempotency.key stage.key) :
    (step settings world stage).2.store.entries.get? key = world.store.entries.get? key := by
  cases stage with
  | «recall» traced =>
      have read := world.entries_cacheGet different
      rw [IntakeStage.key] at read
      rw [step, World.recallReceipt]
      split
      · rfl
      · rcases told : world.cacheGet (Idempotency.key traced.key) with ⟨_ | _ | bytes, after⟩ <;>
          rw [told] at read
        · exact read
        · exact read
        · dsimp only
          cases (Receipt.decode bytes).toOption <;> exact read
  | store record message => rfl
  | announce record message =>
      rw [step, World.publish, Broker.publish]
      cases world.broker.outage <;> rfl
  | remember record =>
      have write := world.entries_cacheSet different (Receipt.pending record.id).encode
        settings.lifetime
      rw [step]
      split
      · rfl
      · exact write

theorem entries_step (settings : IntakeSettings) (world : World) (stage : IntakeStage)
    {key : String} (foreign : ∀ idempotencyKey, key ≠ Idempotency.key idempotencyKey) :
    (step settings world stage).2.store.entries.get? key = world.store.entries.get? key :=
  entries_step_of_ne settings world stage (foreign stage.key)

theorem ledger_step (settings : IntakeSettings) (world : World) (stage : IntakeStage) :
    (step settings world stage).2.ledger = world.ledger ∧
      (step settings world stage).2.faults = world.faults := by
  have taken := stepCase settings world stage
  generalize step settings world stage = result at taken ⊢
  rcases result with ⟨call, after⟩
  cases taken <;> exact ⟨rfl, rfl⟩

end Intake

end Clearing
