import Clearing.Payment.Intake
import Clearing.Proofs.Payment.Books
import Clearing.Proofs.Payment.Receipts
import Clearing.Proofs.Payment.Requests
/-!
What a step of the intake can do.  A step asks one store for one thing, and what
it answers with and what it leaves behind are settled by what it was told.
-/

namespace Clearing

def IntakeStage.key : IntakeStage → String
  | .recall traced => traced.key
  | .store record _ | .announce record _ | .remember record => record.idempotencyKey

namespace Intake

/-- What a step comes to: the call and the world after it. -/
inductive StepCase (settings : IntakeSettings) (world : World) :
    IntakeStage → Intake → World → Prop where
  | silent (stage : IntakeStage) :
      StepCase settings world stage (.running stage) world
  | unreadable (traced : TracedRequest) :
      StepCase settings world (.recall traced)
        (.answered (.error (.internal "idempotency store unavailable"))) world
  | recalled (traced : TracedRequest) (entry : StoreEntry) (receipt : Receipt) :
      world.store.entries.get? (Idempotency.key traced.key) = some entry →
      Receipt.decode entry.value = .ok receipt →
      StepCase settings world (.recall traced) (.answered (.ok receipt)) world
  | missed (traced : TracedRequest) (store : Store) :
      (∀ key entry, store.entries.get? key = some entry →
        world.store.entries.get? key = some entry) →
      StepCase settings world (.recall traced)
        (prepare settings world.moment traced) { world with store := store }
  | stored (record : PaymentRecord) (message : OutboundMessage)
      (outcome : Except PaymentError InsertOutcome) (book : PaymentBook) :
      world.book.InsertCase record (storedMessage settings message) outcome book →
      StepCase settings world (.store record message)
        (ofOutcome settings record message outcome) { world with book := book }
  | unpublished (record : PaymentRecord) (message : OutboundMessage) :
      StepCase settings world (.announce record message)
        (.answered (.error (.internal "failed to publish settlement event"))) world
  | published (record : PaymentRecord) (message : OutboundMessage) :
      StepCase settings world (.announce record message)
        (.running (.remember record))
        { world with broker := (world.broker.append message).2 }
  | unremembered (record : PaymentRecord) :
      StepCase settings world (.remember record)
        (.answered (.ok (.pending record.id))) world
  | remembered (record : PaymentRecord) :
      StepCase settings world (.remember record)
        (.answered (.ok (.pending record.id)))
        { world with
          store := world.store.set (Idempotency.key record.idempotencyKey)
            (Receipt.pending record.id).encode settings.lifetime world.now }

theorem stepCase_recall (settings : IntakeSettings) (world : World)
    (traced : TracedRequest) :
    StepCase settings world (.recall traced)
      (step settings world (.recall traced)).1
      (step settings world (.recall traced)).2 := by
  unfold step
  by_cases silent : world.faults.cacheSilent = true
  · simp only [if_pos silent]
    exact .silent (.recall traced)
  · simp only [if_neg silent]
    have recalled := world.recallCase traced.key
    generalize world.recallReceipt traced.key = result at recalled
    rcases result with ⟨answer, after⟩
    dsimp only at recalled
    cases recalled with
    | failed error =>
        dsimp only
        exact .unreadable traced
    | missed store kept =>
        dsimp only
        exact .missed traced store kept
    | found entry present =>
        cases decoded : Receipt.decode entry.value with
        | ok receipt =>
            dsimp only [Except.toOption]
            exact .recalled traced entry receipt present decoded
        | error fault =>
            dsimp only [Except.toOption]
            exact .missed traced world.store fun _ _ held => held

theorem stepCase (settings : IntakeSettings) (world : World) (stage : IntakeStage) :
    StepCase settings world stage (step settings world stage).1
      (step settings world stage).2 := by
  cases stage with
  | «recall» traced => exact stepCase_recall settings world traced
  | store record message =>
      unfold step World.insertPayment
      exact .stored record message _ _ (world.book.insertCase record _)
  | announce record message =>
      unfold step World.publish Broker.publish
      cases world.broker.outage with
      | some error => exact .unpublished record message
      | none => exact .published record message
  | remember record =>
      unfold step World.rememberReceipt World.cacheSet
      by_cases silent : world.faults.cacheSilent = true
      · simp only [if_pos silent]
        exact .silent (.remember record)
      · simp only [if_neg silent]
        cases world.faults.cacheWrite with
        | some error => exact .unremembered record
        | none => exact .remembered record

theorem prepare_cases (settings : IntakeSettings) (moment : Timestamp)
    (traced : TracedRequest) :
    (∃ error, prepare settings moment traced = .answered (.error error)) ∨
      ∃ payment, traced.request.validate = .ok payment ∧
        prepare settings moment traced =
          .running (.store (.pending payment moment)
            (.settlement settings.topic (.ofPayment payment moment)
              (traced.context.child traced.span))) := by
  unfold prepare
  cases traced.request.validate with
  | error error => exact .inl ⟨_, rfl⟩
  | ok payment => exact .inr ⟨payment, rfl, rfl⟩

end Intake

end Clearing
