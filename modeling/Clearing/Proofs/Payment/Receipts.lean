import Clearing.Payment.Idempotency
import Clearing.Proofs.Cache.Store
import Clearing.Proofs.Json.Records
/-!
Receipts in the cache.  A receipt is read back from the bytes that it is
remembered as, under the key that it was remembered with and under no other.
-/

namespace Clearing

theorem Json.reads_oneOf {Value : Type} {parse : String → Option Value}
    {text : String} {value : Value} (parsed : parse text = some value) :
    Reads (oneOf parse) (writeString text) value := by
  intro rest
  have read := reads_stringAs parsed rest
  rw [writeString, List.cons_append, List.cons_append] at read ⊢
  rw [oneOf, bind_eq_of_ok (peek_cons (by decide) _), if_pos rfl]
  exact read

namespace Receipt

def members (receipt : Receipt) : List (String × Bytes) :=
  [("payment_id", Json.writeString receipt.id),
    ("status", Json.writeString receipt.status.name),
    ("message", Json.writeString receipt.message)]

theorem written (receipt : Receipt) :
    Json.Written fields (receipt.id, receipt.status, receipt.message, ())
      receipt.members := by
  refine .cons (Json.reads_string _) (.cons ?_ (.cons (Json.reads_string _) .nil))
  exact Json.reads_oneOf (StatusView.ofName?_name receipt.status)

theorem decode_encode (receipt : Receipt) : decode receipt.encode = .ok receipt := by
  have reads := Json.reads_record receipt.written (by decide) (by simp [members])
  have whole := Json.decode_eq_ok_of_reads reads
  have same : receipt.encode = Json.writeObject receipt.members := rfl
  rw [decode, same, whole]
  rfl

end Receipt

theorem Idempotency.key_injective {first second : String}
    (same : key first = key second) : first = second := by
  unfold key at same
  simpa using same

namespace World

/-- What recalling a receipt comes to: an answer and the world after it. -/
inductive RecallCase (world : World) (key : String) :
    Except CacheError (Option Receipt) → World → Prop where
  | failed (error : CacheError) :
      RecallCase world key (.error error) world
  | found (entry : StoreEntry) :
      world.store.entries.get? (Idempotency.key key) = some entry →
      RecallCase world key (.ok (Receipt.decode entry.value).toOption) world
  | missed (store : Store) :
      (∀ other entry, store.entries.get? other = some entry →
        world.store.entries.get? other = some entry) →
      RecallCase world key (.ok none) { world with store := store }

theorem recallCase (world : World) (key : String) :
    RecallCase world key (world.recallReceipt key).1 (world.recallReceipt key).2 := by
  unfold recallReceipt cacheGet
  cases world.faults.cacheRead with
  | some error => exact .failed error
  | none =>
      rcases world.store.get_cases (Idempotency.key key) world.now with
        ⟨entry, present, _, read⟩ | ⟨_, after, read, kept⟩
      · simp only [read]
        exact .found entry present
      · simp only [read]
        exact .missed after kept

end World

end Clearing
