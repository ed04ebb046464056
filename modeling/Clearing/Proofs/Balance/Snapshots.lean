import Clearing.Balance.Cache
import Clearing.Proofs.Cache.Store
import Clearing.Proofs.Payment.Receipts
import Clearing.Proofs.Settlement.Events
/-!
Balances in the cache.  A balance is read back with the digits and the currency that it was
cached with, and what the cache holds for a balance and what it holds for a receipt never share
a key.
-/

namespace Clearing

theorem BalanceCache.key_injective {first second : String}
    (same : key first = key second) : first = second := by
  unfold key at same
  simpa using same

theorem BalanceCache.key_ne_key (account idempotencyKey : String) :
    key account ≠ Idempotency.key idempotencyKey := by
  intro same
  have texts := congrArg String.toList same
  simp [key, Idempotency.key] at texts

/-- An account as it is reported: its id, the digits of its balance and its currency. -/
structure BalanceView.Reports (view : BalanceView) (account : Account) : Prop where
  account_eq : view.account = account.id
  value_eq : view.balance.value = account.balance.value
  scale_eq : view.balance.scale = account.balance.scale
  currency_eq : view.currency = account.currency
  /-- Nothing but the sign of a zero may be missing. -/
  balance_eq : account.balance.minusZero = false → view.balance = account.balance

theorem Account.reports_view (account : Account) : account.view.Reports account :=
  ⟨rfl, rfl, rfl, rfl, fun _ => rfl⟩

namespace Snapshot

/-- The snapshot as it is read back, with a balance that has no sign at zero. -/
def plain (snapshot : Snapshot) : Snapshot :=
  { snapshot with balance := snapshot.balance.plain }

theorem written (snapshot : Snapshot) :
    Json.Written fields (snapshot.plain.balance, snapshot.plain.currency, ())
      [("balance", Json.writeDecimal snapshot.balance),
        ("currency", Json.writeString snapshot.currency)] :=
  .cons (Json.reads_decimal _) (.cons (Json.reads_string _) .nil)

theorem decode_encode (snapshot : Snapshot) :
    decode snapshot.encode = .ok snapshot.plain := by
  have whole := Json.decode_eq_ok_of_reads
    (Json.reads_record snapshot.written (by decide) (by simp))
  rw [decode, encode, whole]
  rfl

theorem reports_view_plain (account : Account) :
    (account.snapshot.plain.view account.id).Reports account where
  account_eq := rfl
  value_eq := rfl
  scale_eq := rfl
  currency_eq := rfl
  balance_eq := Decimal.plain_eq_self

end Snapshot

namespace World

variable (world : World) {key other : String}

theorem entries_cacheGet (different : other ≠ key) :
    (world.cacheGet key).2.store.entries.get? other = world.store.entries.get? other := by
  unfold cacheGet
  cases world.faults.cacheRead with
  | some error => rfl
  | none =>
      apply Option.ext
      intro entry
      refine (world.store.entries_get_eq_some_iff key other world.now entry).trans ?_
      simp [different]

theorem entries_cacheSet (different : other ≠ key) (value : Bytes) (lifetime : Nat) :
    (world.cacheSet key value lifetime).2.store.entries.get? other =
      world.store.entries.get? other := by
  unfold cacheSet
  cases world.faults.cacheWrite with
  | some error => rfl
  | none =>
      dsimp only
      rw [Store.entries_set, if_neg different]

theorem entries_cacheDelete (different : other ≠ key) :
    (world.cacheDelete key).2.store.entries.get? other = world.store.entries.get? other := by
  unfold cacheDelete
  cases world.faults.cacheDelete with
  | some error => rfl
  | none =>
      dsimp only
      rw [Store.entries_delete, if_neg different]

theorem kept_cacheDelete {entry : StoreEntry}
    (found : (world.cacheDelete key).2.store.entries.get? other = some entry) :
    world.store.entries.get? other = some entry := by
  unfold cacheDelete at found
  cases failing : world.faults.cacheDelete with
  | some error =>
      rw [failing] at found
      exact found
  | none =>
      rw [failing] at found
      dsimp only at found
      rw [Store.entries_delete] at found
      split at found
      · cases found
      · exact found

theorem kept_cachePurge {entry : StoreEntry}
    (found : world.cachePurge.2.store.entries.get? other = some entry) :
    world.store.entries.get? other = some entry := by
  unfold cachePurge at found
  cases failing : world.faults.cachePurge with
  | some error =>
      rw [failing] at found
      exact found
  | none =>
      rw [failing] at found
      exact ((world.store.entries_purge_eq_some_iff other world.now entry).mp found).1

theorem ledger_cachePurge :
    world.cachePurge.2.ledger = world.ledger ∧ world.cachePurge.2.faults = world.faults := by
  unfold cachePurge
  cases world.faults.cachePurge <;> exact ⟨rfl, rfl⟩

end World

end Clearing
