import Clearing.Payment.Intake
import Clearing.Proofs.Payment.Receipts
import Clearing.Proofs.Service.Call
/-!
What is remembered.  A receipt is recalled as long as its entry is live, and a look for it
changes nothing that anybody could see in the cache from then on.
-/

namespace Clearing

namespace Store

/-- Whoever reads the key now is given the entry. -/
structure Live (store : Store) (now : Nat) (key : String) (entry : StoreEntry) : Prop where
  found : store.entries.get? key = some entry
  unexpired : now < entry.expires

/-- From a moment on, one store has the live entries of the other, and no more. -/
def Agrees (store other : Store) (since : Nat) : Prop :=
  ∀ now, since ≤ now → ∀ key entry, store.Live now key entry ↔ other.Live now key entry

theorem Agrees.refl (store : Store) (since : Nat) : store.Agrees store since :=
  fun _ _ _ _ => Iff.rfl

theorem Live.of_le {store : Store} {earlier now : Nat} {key : String} {entry : StoreEntry}
    (live : store.Live now key entry) (before : earlier ≤ now) :
    store.Live earlier key entry :=
  ⟨live.found, before.trans_lt live.unexpired⟩

theorem Live.get {store : Store} {now : Nat} {key : String} {entry : StoreEntry}
    (live : store.Live now key entry) : store.get key now = (some entry.value, store) :=
  store.get_of_lt key now live.found live.unexpired

theorem agrees_get (store : Store) (key : String) (now : Nat) :
    store.Agrees (store.get key now).2 now := by
  intro later after other entry
  constructor
  · intro live
    refine ⟨(store.entries_get_eq_some_iff key other now entry).mpr ⟨live.found, fun _ => ?_⟩,
      live.unexpired⟩
    exact after.trans_lt live.unexpired
  · intro live
    exact ⟨((store.entries_get_eq_some_iff key other now entry).mp live.found).1,
      live.unexpired⟩

end Store

namespace World

/-- A live entry of the cache holds the receipt of the key. -/
def Remembers (world : World) (key : String) (receipt : Receipt) : Prop :=
  ∃ entry, world.store.Live world.now (Idempotency.key key) entry ∧
    Receipt.decode entry.value = .ok receipt

/-- Nothing can be recalled with the key, and a look for it leaves the live entries as they are. -/
structure Misses (world : World) (key : String) (store : Store) : Prop where
  readable : world.faults.cacheRead = none
  forgotten : ∀ receipt, ¬ world.Remembers key receipt
  agrees : world.store.Agrees store world.now

/-- What a look for a receipt comes to, given what the cache has: an answer and a world. -/
inductive Recollection (world : World) (key : String) :
    Except CacheError (Option Receipt) → World → Prop where
  | failed (fault : CacheError) :
      world.faults.cacheRead = some fault →
      Recollection world key (.error fault) world
  | found (receipt : Receipt) :
      world.faults.cacheRead = none →
      world.Remembers key receipt →
      Recollection world key (.ok (some receipt)) world
  | missed (store : Store) :
      world.Misses key store →
      Recollection world key (.ok none) { world with store := store }

variable {world : World} {key : String}

theorem recollection (world : World) (key : String) :
    Recollection world key (world.recallReceipt key).1 (world.recallReceipt key).2 := by
  unfold recallReceipt cacheGet
  cases reading : world.faults.cacheRead with
  | some fault => exact .failed fault reading
  | none =>
      have agrees := world.store.agrees_get (Idempotency.key key) world.now
      rcases world.store.get_cases (Idempotency.key key) world.now with
        ⟨entry, present, live, read⟩ | ⟨expired, after, read, _⟩
      · simp only [read]
        have held : world.store.Live world.now (Idempotency.key key) entry := ⟨present, live⟩
        cases decoded : Receipt.decode entry.value with
        | ok receipt => exact .found receipt reading ⟨entry, held, decoded⟩
        | error fault =>
            refine .missed world.store ⟨reading, ?_, .refl _ _⟩
            rintro receipt ⟨again, alsoLive, legible⟩
            cases present.symm.trans alsoLive.found
            cases decoded.symm.trans legible
      · rw [read] at agrees
        simp only [read]
        refine .missed after ⟨reading, ?_, agrees⟩
        rintro receipt ⟨entry, live, _⟩
        exact expired entry live.found live.unexpired

theorem recallReceipt_of_remembers (readable : world.faults.cacheRead = none)
    {receipt : Receipt} (remembered : world.Remembers key receipt) :
    world.recallReceipt key = (.ok (some receipt), world) := by
  obtain ⟨entry, live, legible⟩ := remembered
  simp only [recallReceipt, cacheGet, readable, live.get, legible]
  rfl

/-- A receipt is recalled exactly if it is remembered and the cache can be read. -/
theorem recallReceipt_eq_some_iff (receipt : Receipt) :
    (world.recallReceipt key).1 = .ok (some receipt) ↔
      world.faults.cacheRead = none ∧ world.Remembers key receipt := by
  constructor
  · have looked := world.recollection key
    intro recalled
    generalize world.recallReceipt key = result at looked recalled
    rcases result with ⟨answer, after⟩
    dsimp only at looked recalled
    cases looked with
    | found other readable remembered =>
        cases recalled
        exact ⟨readable, remembered⟩
    | failed _ _ | missed _ _ => cases recalled
  · rintro ⟨readable, remembered⟩
    rw [recallReceipt_of_remembers readable remembered]

/-- The cache gives an answer to the request as soon as it is asked. -/
structure Hits (world : World) (traced : TracedRequest) (receipt : Receipt) : Prop where
  named : traced.key ≠ ""
  audible : world.faults.cacheSilent = false
  recalled : (world.recallReceipt traced.key).1 = .ok (some receipt)

theorem Hits.initiatePayment {traced : TracedRequest} {receipt : Receipt}
    (hits : world.Hits traced receipt) (settings : IntakeSettings) :
    world.initiatePayment settings traced = (.answered (.ok receipt), world) := by
  obtain ⟨readable, remembered⟩ := (recallReceipt_eq_some_iff receipt).mp hits.recalled
  have recalled := recallReceipt_of_remembers readable remembered
  rw [World.initiatePayment, Intake.begin, if_neg hits.named, Intake.steps,
    Call.run_succ_running, Intake.step, if_neg (by simp [hits.audible]), recalled,
    Call.run_answered]

end World

end Clearing
