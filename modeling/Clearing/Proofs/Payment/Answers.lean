import Clearing.Proofs.Payment.Intake
import Clearing.Proofs.Payment.Recollection
/-!
What a request is told.  The answer to a request is settled by what is remembered under its key
and, if that is nothing, by what the book says about the payment and whether it could be published.
-/

namespace Clearing

namespace PaymentBook

variable {book : PaymentBook}

theorem outcome_insert (book : PaymentBook) (record : PaymentRecord)
    (message : Option OutboundMessage) :
    (book.insert record message).1 = (book.insert record none).1 := by
  rw [insert, insert]
  split
  · split
    · split <;> rfl
    · split <;> rfl
  · rfl

theorem insert_of_unheld (online : book.online = true) {record : PaymentRecord}
    (unheld : book.records.get? record.id = none) (message : Option OutboundMessage) :
    (book.insert record message).1 =
      match book.owner? record.idempotencyKey with
      | some owner => .ok (.keyTaken owner.id)
      | none => .ok .inserted := by
  rw [insert, if_pos online, unheld]
  cases book.owner? record.idempotencyKey <;> rfl

end PaymentBook

namespace World

/-- The cache answers, and has no receipt for the key. -/
def Forgets (world : World) (key : String) : Prop :=
  world.faults.cacheRead = none ∧ ∀ receipt, ¬ world.Remembers key receipt

theorem recallReceipt_eq_none_iff (world : World) (key : String) :
    (world.recallReceipt key).1 = .ok none ↔ world.Forgets key := by
  have looked := world.recollection key
  generalize world.recallReceipt key = result at looked
  rcases result with ⟨answer, after⟩
  dsimp only at looked ⊢
  cases looked with
  | failed fault failing => simp [Forgets, failing]
  | found receipt readable remembered =>
      exact ⟨nofun, fun forgets => (forgets.2 receipt remembered).elim⟩
  | missed store missed => exact ⟨fun _ => ⟨missed.readable, missed.forgotten⟩, fun _ => rfl⟩

end World

namespace Intake

variable {settings : IntakeSettings}

/-- What a client is told, given what the book says about the payment. -/
def reply (settings : IntakeSettings) (outage : Option BusError) (id : String) :
    Except PaymentError InsertOutcome → Except ServiceError Receipt
  | .error (.conflict id) =>
      .error (.conflict ("payment " ++ id ++ " already exists with different parameters"))
  | .error _ => .error (.internal "failed to save payment")
  | .ok (.keyTaken owner) => .ok (.pending owner)
  | .ok .inserted | .ok .duplicate =>
      if settings.dispatch = .direct ∧ outage.isSome then
        .error (.internal "failed to publish settlement event")
      else
        .ok (.pending id)

theorem reply_duplicate_ne_conflict (settings : IntakeSettings) (outage : Option BusError)
    (id other : String) :
    reply settings outage id (.ok .duplicate) ≠
      reply settings outage id (.error (.conflict other)) := by
  rw [reply, reply]
  split <;> simp

theorem run_remember (world : World) (audible : world.faults.cacheSilent = false)
    (record : PaymentRecord) (steps : Nat) :
    (Call.run (step settings) (steps + 1) world (.running (.remember record))).1 =
      .answered (.ok (.pending record.id)) := by
  rw [Call.run_succ_running, step, if_neg (by simp [audible]), Call.run_answered]

theorem run_afterStore (world : World) (audible : world.faults.cacheSilent = false)
    (record : PaymentRecord) (message : OutboundMessage) :
    (Call.run (step settings) 2 world (afterStore settings record message)).1 =
      .answered (reply settings world.broker.outage record.id (.ok .duplicate)) := by
  rw [afterStore, reply]
  cases dispatch : settings.dispatch with
  | outbox => exact run_remember world audible record 1
  | direct =>
      dsimp only
      rw [Call.run_succ_running, step, World.publish, Broker.publish]
      cases world.broker.outage with
      | some fault => rfl
      | none =>
          let published := { world with broker := (world.broker.append message).2 }
          exact run_remember published audible record 0

theorem run_store (world : World) (audible : world.faults.cacheSilent = false)
    (record : PaymentRecord) (message : OutboundMessage) :
    (Call.run (step settings) 3 world (.running (.store record message))).1 =
      .answered (reply settings world.broker.outage record.id
        (world.book.insert record none).1) := by
  rw [Call.run_succ_running, step, World.insertPayment,
    ← PaymentBook.outcome_insert _ _ (storedMessage settings message)]
  generalize world.book.insert record (storedMessage settings message) = result
  rcases result with ⟨error | outcome, book⟩
  · cases error <;> rfl
  · cases outcome with
    | inserted | duplicate =>
        exact run_afterStore { world with book := book } audible record message
    | keyTaken owner => rfl

theorem ledger_faults_initiatePayment (world : World) (settings : IntakeSettings)
    (traced : TracedRequest) :
    ((world.initiatePayment settings traced).2.ledger,
      (world.initiatePayment settings traced).2.faults) = (world.ledger, world.faults) := by
  refine Call.run_keeps (fun world => (world.ledger, world.faults)) (fun before stage => ?_) rfl
  have taken := stepCase settings before stage
  generalize (step settings before stage).1 = call at taken
  generalize (step settings before stage).2 = after at taken
  cases taken <;> rfl

end Intake

namespace World

variable {world : World} {settings : IntakeSettings} {traced : TracedRequest}
  {payment : ValidPayment}

/-- What is remembered is told again, and otherwise the book is asked. -/
theorem answer_initiatePayment (audible : world.faults.cacheSilent = false)
    (valid : traced.request.validate = .ok payment) :
    (world.initiatePayment settings traced).1 =
      .answered
        (match (world.recallReceipt payment.idempotencyKey).1 with
        | .error _ => .error (.internal "idempotency store unavailable")
        | .ok (some receipt) => .ok receipt
        | .ok none =>
            Intake.reply settings world.broker.outage payment.id
              (world.book.insert (.pending payment world.moment) none).1) := by
  obtain ⟨passes, gives⟩ := PaymentRequest.validate_eq_ok_iff.mp valid
  have key_eq : traced.key = payment.idempotencyKey := gives.key_eq.symm
  have named : traced.key ≠ "" := passes .keyPresent
  have looked := world.recollection traced.key
  rw [initiatePayment, Intake.begin, if_neg named, Intake.steps, Call.run_succ_running,
    Intake.step, if_neg (by simp [audible]), ← key_eq]
  generalize world.recallReceipt traced.key = result at looked
  rcases result with ⟨answer, after⟩
  dsimp only at looked ⊢
  cases looked with
  | failed fault _ => rfl
  | found receipt _ _ => rfl
  | missed store _ =>
      dsimp only [Intake.prepare]
      rw [valid]
      exact Intake.run_store { world with store := store } audible (.pending payment world.moment) _

end World

end Clearing
