import Clearing.Proofs.Payment.Desk
import Clearing.Proofs.Payment.Recollection
/-!
Requests that fail.  A request fails at one of six places, each with an error of its own.  What
it leaves behind is nothing, but for the payment that a direct intake has stored and then could
not publish; and it is never remembered.
-/

namespace Clearing

/-- A book to which a payment was added as pending, with nothing for the outbox. -/
structure World.Adds (world : World) (payment : ValidPayment) (book : PaymentBook) :
    Prop where
  online : world.book.online = true
  fresh : world.book.records.get? payment.id = none
  unowned : world.book.owner? payment.idempotencyKey = none
  stored : ∃ record : PaymentRecord, record.PendingFor payment world.moment ∧
    book = { world.book with records := world.book.records.insert payment.id record }

namespace Intake

/-- Where a request fails: the error that it is told and the world that it leaves. -/
inductive Failure (settings : IntakeSettings) (world : World) (traced : TracedRequest) :
    ServiceError → World → Prop where
  | unnamed :
      traced.key = "" →
      Failure settings world traced (.invalidArgument "idempotency_key is required") world
  | unreadable (fault : CacheError) :
      traced.key ≠ "" →
      world.faults.cacheRead = some fault →
      Failure settings world traced (.internal "idempotency store unavailable") world
  | invalid (error : RequestError) (store : Store) :
      world.Misses traced.key store →
      traced.request.validate = .error error →
      Failure settings world traced (.invalidArgument error.message)
        { world with store := store }
  | unsaved (payment : ValidPayment) (store : Store) :
      world.Misses traced.key store →
      traced.request.validate = .ok payment →
      world.book.online = false →
      Failure settings world traced (.internal "failed to save payment")
        { world with store := store }
  | conflicting (payment : ValidPayment) (held : PaymentRecord) (store : Store) :
      world.Misses traced.key store →
      traced.request.validate = .ok payment →
      world.book.records.get? payment.id = some held →
      ¬ held.SameTransfer (.pending payment world.moment) →
      Failure settings world traced
        (.conflict ("payment " ++ payment.id ++ " already exists with different parameters"))
        { world with store := store }
  | unpublished (payment : ValidPayment) (fault : BusError) (store : Store)
      (book : PaymentBook) :
      world.Misses traced.key store →
      traced.request.validate = .ok payment →
      settings.dispatch = .direct →
      world.broker.outage = some fault →
      book = world.book ∨ world.Adds payment book →
      Failure settings world traced (.internal "failed to publish settlement event")
        { world with store := store, book := book }

variable {settings : IntakeSettings} {world after : World} {traced : TracedRequest}
  {record : PaymentRecord} {message : OutboundMessage} {error : ServiceError} {steps : Nat}

theorem run_remember_ne_error :
    Call.run (step settings) steps world (.running (.remember record)) ≠
      (.answered (.error error), after) := by
  by_cases silent : world.faults.cacheSilent = true
  · have waits : step settings world (.remember record) = (.running (.remember record), world) :=
      if_pos silent
    rw [Call.run_of_silent waits]
    intro failed
    cases failed
  · cases steps with
    | zero =>
        intro failed
        cases failed
    | succ steps =>
        rw [Call.run_succ_running, step, if_neg silent, Call.run_answered]
        intro failed
        cases failed

theorem failure_of_announce
    (failed : Call.run (step settings) steps world (.running (.announce record message)) =
      (.answered (.error error), after)) :
    error = .internal "failed to publish settlement event" ∧ after = world ∧
      ∃ fault, world.broker.outage = some fault := by
  cases steps with
  | zero => cases failed
  | succ steps =>
      rw [Call.run_succ_running, step, World.publish, Broker.publish] at failed
      cases outage : world.broker.outage with
      | some fault =>
          simp only [outage] at failed
          rw [Call.run_answered] at failed
          cases failed
          exact ⟨rfl, rfl, fault, rfl⟩
      | none =>
          simp only [outage] at failed
          exact absurd failed run_remember_ne_error

theorem Failure.of_afterStore {payment : ValidPayment} {store : Store} {book : PaymentBook}
    (missed : world.Misses traced.key store)
    (valid : traced.request.validate = .ok payment)
    (stored : settings.dispatch = .direct → book = world.book ∨ world.Adds payment book)
    (failed : Call.run (step settings) steps { world with store := store, book := book }
      (afterStore settings record message) = (.answered (.error error), after)) :
    Failure settings world traced error after := by
  unfold afterStore at failed
  cases dispatch : settings.dispatch with
  | outbox =>
      rw [dispatch] at failed
      exact absurd failed run_remember_ne_error
  | direct =>
      rw [dispatch] at failed
      obtain ⟨rfl, rfl, fault, outage⟩ := failure_of_announce failed
      exact .unpublished payment fault store book missed valid dispatch outage (stored dispatch)

theorem Failure.of_store {payment : ValidPayment} {store : Store}
    (missed : world.Misses traced.key store)
    (valid : traced.request.validate = .ok payment)
    (failed : Call.run (step settings) steps { world with store := store }
      (.running (.store (.pending payment world.moment) message)) =
        (.answered (.error error), after)) :
    Failure settings world traced error after := by
  cases steps with
  | zero => cases failed
  | succ steps =>
      rw [Call.run_succ_running, step, World.insertPayment] at failed
      have inserted := world.book.insertCase (.pending payment world.moment)
        (storedMessage settings message)
      generalize world.book.insert (.pending payment world.moment)
        (storedMessage settings message) = result at inserted failed
      rcases result with ⟨outcome, book⟩
      dsimp only at inserted failed
      cases inserted with
      | offline offline =>
          simp only [ofOutcome, Call.run_answered] at failed
          cases failed
          exact .unsaved payment store missed valid offline
      | conflict held _ found different =>
          rw [ofOutcome, Call.run_answered] at failed
          cases failed
          exact .conflicting payment held store missed valid found different
      | keyTaken owner _ _ _ =>
          rw [ofOutcome, Call.run_answered] at failed
          cases failed
      | duplicate _ _ _ _ => exact .of_afterStore missed valid (fun _ => .inl rfl) failed
      | inserted online fresh unowned =>
          refine .of_afterStore missed valid (fun direct => .inr ?_) failed
          refine ⟨online, fresh, unowned, _,
            PaymentRecord.pendingFor_pending payment world.moment, ?_⟩
          rw [storedMessage, direct]
          rfl

theorem Failure.of_recall (named : traced.key ≠ "")
    (failed : Call.run (step settings) steps world (.running (.recall traced)) =
      (.answered (.error error), after)) :
    Failure settings world traced error after := by
  by_cases silent : world.faults.cacheSilent = true
  · have waits : step settings world (.recall traced) = (.running (.recall traced), world) :=
      if_pos silent
    rw [Call.run_of_silent waits] at failed
    cases failed
  · cases steps with
    | zero => cases failed
    | succ steps =>
        rw [Call.run_succ_running, step, if_neg silent] at failed
        have looked := world.recollection traced.key
        generalize world.recallReceipt traced.key = result at looked failed
        rcases result with ⟨answer, left⟩
        dsimp only at looked failed
        cases looked with
        | failed fault failing =>
            rw [Call.run_answered] at failed
            cases failed
            exact .unreadable fault named failing
        | found receipt _ _ =>
            rw [Call.run_answered] at failed
            cases failed
        | missed store missed =>
            dsimp only [prepare] at failed
            cases checked : traced.request.validate with
            | error error =>
                rw [checked, Call.run_answered] at failed
                cases failed
                exact .invalid error store missed checked
            | ok payment =>
                rw [checked] at failed
                exact .of_store missed checked failed

theorem failure_of_initiatePayment
    (failed : world.initiatePayment settings traced = (.answered (.error error), after)) :
    Failure settings world traced error after := by
  rw [World.initiatePayment, begin] at failed
  by_cases unnamed : traced.key = ""
  · rw [if_pos unnamed, Call.run_answered] at failed
    cases failed
    exact .unnamed unnamed
  · rw [if_neg unnamed] at failed
    exact .of_recall unnamed failed

theorem Failure.agrees (failure : Failure settings world traced error after) :
    world.store.Agrees after.store world.now := by
  cases failure with
  | unnamed _ | unreadable _ _ _ => exact .refl _ _
  | invalid _ _ missed _ | unsaved _ _ missed _ _ | conflicting _ _ _ missed _ _ _
  | unpublished _ _ _ _ missed _ _ _ _ => exact missed.agrees

theorem Failure.world_eq (failure : Failure settings world traced error after) :
    after = { world with book := after.book, store := after.store } := by
  cases failure <;> rfl

theorem Failure.book (failure : Failure settings world traced error after) :
    after.book = world.book ∨
      ∃ payment, world.Adds payment after.book ∧ traced.request.validate = .ok payment ∧
        settings.dispatch = .direct ∧
        error = .internal "failed to publish settlement event" ∧
        ∃ fault, world.broker.outage = some fault := by
  cases failure with
  | unnamed _ | unreadable _ _ _ | invalid _ _ _ _ | unsaved _ _ _ _ _
  | conflicting _ _ _ _ _ _ _ => exact .inl rfl
  | unpublished payment fault store book _ valid direct outage stored =>
      rcases stored with same | added
      · exact .inl same
      · exact .inr ⟨payment, added, valid, direct, rfl, fault, outage⟩

theorem Failure.forgotten (failure : Failure settings world traced error after)
    (named : traced.key ≠ "") :
    (∃ fault, world.faults.cacheRead = some fault) ∨
      ∀ receipt, ¬ world.Remembers traced.key receipt := by
  cases failure with
  | unnamed unnamed => exact absurd unnamed named
  | unreadable fault _ failing => exact .inl ⟨fault, failing⟩
  | invalid _ _ missed _ | unsaved _ _ missed _ _ | conflicting _ _ _ missed _ _ _
  | unpublished _ _ _ _ missed _ _ _ _ => exact .inr missed.forgotten

end Intake

namespace World

/-- What a key is remembered with at a later time, and nobody stored since, was there before. -/
theorem Remembers.before {world later : World} {store : Store} {key : String}
    {receipt : Receipt} (remembered : later.Remembers key receipt)
    (agrees : world.store.Agrees store world.now) (passed : world.now ≤ later.now)
    (kept : ∀ entry, later.store.Live later.now (Idempotency.key key) entry →
      store.Live later.now (Idempotency.key key) entry) :
    { later with store := world.store }.Remembers key receipt := by
  obtain ⟨entry, live, legible⟩ := remembered
  exact ⟨entry, (agrees _ passed _ _).mpr (kept entry live), legible⟩

theorem Remembers.earlier {world later : World} {key : String} {receipt : Receipt}
    (remembered : { later with store := world.store }.Remembers key receipt)
    (passed : world.now ≤ later.now) : world.Remembers key receipt := by
  obtain ⟨entry, live, legible⟩ := remembered
  exact ⟨entry, live.of_le passed, legible⟩

/--
A request that fails leaves the broker and all that is live in the cache as they were.  It leaves
the book as it was too, unless a direct intake could not publish the payment: then the payment may
have been added to the book, with what the request was found to ask for.  As long as nobody else
stores anything under its key, a later request with this key is answered from the cache only if
it would have been so without the one that failed, and if that one could not read the cache.
-/
theorem failures_leave_no_trace {world after : World} {settings : IntakeSettings}
    {traced : TracedRequest} {error : ServiceError}
    (failed : world.initiatePayment settings traced = (.answered (.error error), after)) :
    after = { world with book := after.book, store := after.store } ∧
      world.store.Agrees after.store world.now ∧
      (settings.dispatch = .outbox → after.book = world.book) ∧
      (after.book = world.book ∨
        ∃ payment, traced.request.validate = .ok payment ∧ traced.request.Gives payment ∧
          payment.idempotencyKey = traced.key ∧ world.Adds payment after.book ∧
          settings.dispatch = .direct ∧
          error = .internal "failed to publish settlement event" ∧
          ∃ fault, world.broker.outage = some fault) ∧
      ∀ (later : World) (retry : TracedRequest) (receipt : Receipt),
        world.now ≤ later.now → retry.key = traced.key →
        (∀ entry, later.store.Live later.now (Idempotency.key traced.key) entry →
          after.store.Live later.now (Idempotency.key traced.key) entry) →
        later.Hits retry receipt →
        (∃ fault, world.faults.cacheRead = some fault) ∧
          Hits { later with store := world.store } retry receipt := by
  have failure := Intake.failure_of_initiatePayment failed
  refine ⟨failure.world_eq, failure.agrees, ?_, ?_, ?_⟩
  · intro outbox
    rcases failure.book with same | ⟨_, _, _, direct, _⟩
    · exact same
    · cases outbox.symm.trans direct
  · rcases failure.book with same | ⟨payment, added, valid, rest⟩
    · exact .inl same
    · have gives := (PaymentRequest.validate_eq_ok_iff.mp valid).2
      exact .inr ⟨payment, valid, gives, gives.key_eq, added, rest⟩
  · intro later retry receipt passed sameKey kept hits
    obtain ⟨readable, remembered⟩ := (recallReceipt_eq_some_iff receipt).mp hits.recalled
    rw [sameKey] at remembered
    -- the receipt was there before the request that failed, which cannot have got to read it
    have without := remembered.before failure.agrees passed kept
    rcases failure.forgotten (sameKey ▸ hits.named) with unreadable | forgotten
    · refine ⟨unreadable, hits.named, hits.audible, ?_⟩
      rw [sameKey]
      exact (recallReceipt_eq_some_iff receipt).mpr ⟨readable, without⟩
    · exact absurd (without.earlier passed) (forgotten receipt)

def unpublishing : World := (ofPartitions 1).disturb (.setBroker (some .storage))

/-- The rent is in the book, but nobody is told of it, and its key is as good as new. -/
theorem failures_leave_no_trace_unpublishing :
    let result := unpublishing.initiatePayment Desk.directIntake (Desk.payRent "rent" "may")
    result.1 = .answered (.error (.internal "failed to publish settlement event")) ∧
      (result.2.book.records.get? "rent").isSome ∧
      result.2.broker = unpublishing.broker ∧
      ∀ (later : World) (retry : TracedRequest) (receipt : Receipt), retry.key = "may" →
        later.store = result.2.store → ¬ later.Hits retry receipt := by
  intro result
  have answered :
      result.1 = .answered (.error (.internal "failed to publish settlement event")) := by
    decide +kernel
  have kept : (result.2.book.records.get? "rent").isSome := by decide +kernel
  have key_eq : (Desk.payRent "rent" "may").key = "may" := by decide +kernel
  obtain ⟨frame, _, _, _, forgotten⟩ :=
    failures_leave_no_trace (Prod.ext answered rfl : result = (_, result.2))
  have broker_eq : result.2.broker = unpublishing.broker := by rw [frame]
  refine ⟨answered, kept, broker_eq, ?_⟩
  intro later retry receipt sameKey sameStore hits
  obtain ⟨⟨fault, failing⟩, _⟩ := forgotten later retry receipt (Nat.zero_le _)
    (sameKey.trans key_eq.symm) (fun _ live => sameStore ▸ live) hits
  cases failing

end World

end Clearing
