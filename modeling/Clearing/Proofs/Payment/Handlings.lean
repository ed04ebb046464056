import Clearing.Proofs.Payment.Intake
import Clearing.Proofs.Settlement.Events
import Clearing.Proofs.World.Accumulation
/-!
Requests in the hands of an intake.  At each stage a request is known to have the
record, the message and the payment that its next step needs, and a step keeps the
stores good for all requests.  A payment that is answered with has the idempotency
key of the request, or was asked for by its id with this key.
-/

namespace Clearing

/-- A record has the id and the key that a request gives. -/
structure PaymentRecord.MadeOf (record : PaymentRecord) (traced : TracedRequest) :
    Prop where
  id_eq : record.id = Text.trim traced.request.id
  key_eq : record.idempotencyKey = traced.key

namespace World

variable (settings : IntakeSettings) (asked : List TracedRequest)

/-- A payment of the book that requests with a key may be answered with. -/
def Entitled (world : World) (key id : String) : Prop :=
  ∃ record, world.book.records.get? id = some record ∧
    (record.idempotencyKey = key ∨
      ∃ traced ∈ asked, traced.key = key ∧ Text.trim traced.request.id = id)

/-- What an intake that publishes for itself has published of a payment. -/
def Delivered (world : World) (id : String) : Prop :=
  settings.dispatch = .direct → world.Published settings.topic id

/-- The owner of a key, for a request that asked for another payment with it. -/
def Borrowed (world : World) (traced : TracedRequest) (id : String) : Prop :=
  ∃ record, world.book.records.get? id = some record ∧
    record.idempotencyKey = traced.key ∧ id ≠ Text.trim traced.request.id

structure Serves (world : World) : Prop where
  inRange : Date.YearInRange world.moment.date.year
  keyed : world.book.Keyed
  remembered : ∀ key entry,
    world.store.entries.get? (Idempotency.key key) = some entry →
    ∃ id, entry.value = (Receipt.pending id).encode ∧
      world.Entitled asked key id ∧ world.Delivered settings id

variable {settings asked}

theorem Entitled.of_accumulates {before after : World} {key id : String}
    {more : List TracedRequest} (entitled : before.Entitled asked key id)
    (accumulates : before.Accumulates after) (subset : asked ⊆ more) :
    after.Entitled more key id := by
  obtain ⟨record, found, reason⟩ := entitled
  obtain ⟨later, laterFound, continues⟩ := accumulates.records id record found
  refine ⟨later, laterFound, ?_⟩
  rcases reason with same | ⟨traced, member, same, named⟩
  · exact .inl (continues.samePayment.idempotencyKey_eq.trans same)
  · exact .inr ⟨traced, subset member, same, named⟩

theorem Delivered.of_accumulates {before after : World} {id : String}
    (delivered : before.Delivered settings id)
    (accumulates : before.Accumulates after) : after.Delivered settings id :=
  fun direct => accumulates.published (delivered direct)

theorem Borrowed.of_accumulates {before after : World} {traced : TracedRequest}
    {id : String} (borrowed : before.Borrowed traced id)
    (accumulates : before.Accumulates after) : after.Borrowed traced id := by
  obtain ⟨record, found, same, different⟩ := borrowed
  obtain ⟨later, laterFound, continues⟩ := accumulates.records id record found
  exact ⟨later, laterFound, continues.samePayment.idempotencyKey_eq.trans same, different⟩

theorem Serves.of_accumulates {before after : World} {more : List TracedRequest}
    (serves : before.Serves settings asked) (accumulates : before.Accumulates after)
    (subset : asked ⊆ more) (inRange : Date.YearInRange after.moment.date.year)
    (keyed : after.book.Keyed)
    (store : ∀ key entry, after.store.entries.get? key = some entry →
      before.store.entries.get? key = some entry) :
    after.Serves settings more where
  inRange := inRange
  keyed := keyed
  remembered key entry found := by
    obtain ⟨id, written, entitled, delivered⟩ :=
      serves.remembered key entry (store _ _ found)
    exact ⟨id, written, entitled.of_accumulates accumulates subset,
      delivered.of_accumulates accumulates⟩

end World

namespace Handling

variable (settings : IntakeSettings) (asked : List TracedRequest)

/-- What is known of a request at each stage of its handling. -/
inductive Sound (world : World) (traced : TracedRequest) : Intake → Prop where
  | recall : Sound world traced (.running (.recall traced))
  | store (record : PaymentRecord) (message : OutboundMessage) :
      record.MadeOf traced →
      message.Announces settings.topic record.id →
      Sound world traced (.running (.store record message))
  | announce (record : PaymentRecord) (message : OutboundMessage) :
      record.MadeOf traced →
      message.Announces settings.topic record.id →
      world.Entitled asked traced.key record.id →
      Sound world traced (.running (.announce record message))
  | remember (record : PaymentRecord) :
      record.MadeOf traced →
      world.Entitled asked traced.key record.id →
      world.Delivered settings record.id →
      Sound world traced (.running (.remember record))
  | refused (error : ServiceError) :
      Sound world traced (.answered (.error error))
  | accepted (id : String) :
      world.Entitled asked traced.key id →
      world.Delivered settings id ∨ world.Borrowed traced id →
      Sound world traced (.answered (.ok (.pending id)))

variable {settings asked}

theorem Sound.of_accumulates {before after : World} {traced : TracedRequest}
    {call : Intake} {more : List TracedRequest}
    (sound : Sound settings asked before traced call)
    (accumulates : before.Accumulates after) (subset : asked ⊆ more) :
    Sound settings more after traced call := by
  cases sound with
  | «recall» => exact .recall
  | store record message made announces => exact .store record message made announces
  | announce record message made announces entitled =>
      exact .announce record message made announces
        (entitled.of_accumulates accumulates subset)
  | remember record made entitled delivered =>
      exact .remember record made (entitled.of_accumulates accumulates subset)
        (delivered.of_accumulates accumulates)
  | refused error => exact .refused error
  | accepted id entitled source =>
      apply Sound.accepted id (entitled.of_accumulates accumulates subset)
      rcases source with delivered | borrowed
      · exact .inl (delivered.of_accumulates accumulates)
      · exact .inr (borrowed.of_accumulates accumulates)

theorem sound_begin (world : World) (traced : TracedRequest) :
    Sound settings asked world traced (Intake.begin traced) := by
  unfold Intake.begin
  split
  · exact .refused _
  · exact .recall

theorem sound_prepare (settings : IntakeSettings) {moment : Timestamp}
    (inRange : Date.YearInRange moment.date.year) (world : World)
    (traced : TracedRequest) :
    Sound settings asked world traced (Intake.prepare settings moment traced) := by
  rcases Intake.prepare_cases settings moment traced with
    ⟨error, refused⟩ | ⟨payment, valid, prepared⟩
  · rw [refused]
    exact .refused error
  · obtain ⟨id_eq, key_eq, _⟩ := PaymentRequest.taken_of_validate_eq_ok valid
    rw [prepared]
    apply Sound.store
    · exact ⟨id_eq, key_eq⟩
    · exact ⟨rfl, _, SettlementEvent.decode_ofPayment inRange, rfl⟩

theorem sound_ofOutcome {world : World} {traced : TracedRequest}
    {record : PaymentRecord} {message : OutboundMessage}
    (member : traced ∈ asked) (keyed : world.book.Keyed) (made : record.MadeOf traced)
    (announces : message.Announces settings.topic record.id)
    {stored : Option OutboundMessage} {outcome : Except PaymentError InsertOutcome}
    {book : PaymentBook} (inserted : world.book.InsertCase record stored outcome book) :
    Sound settings asked { world with book := book } traced
      (Intake.ofOutcome settings record message outcome) := by
  have goesOn (present : ∃ held, book.records.get? record.id = some held) :
      Sound settings asked { world with book := book } traced
        (Intake.afterStore settings record message) := by
    obtain ⟨held, found⟩ := present
    have entitled : { world with book := book }.Entitled asked traced.key record.id :=
      ⟨held, found, .inr ⟨traced, member, rfl, made.id_eq.symm⟩⟩
    unfold Intake.afterStore
    cases direct : settings.dispatch with
    | outbox =>
        refine .remember record made entitled fun published => ?_
        rw [direct] at published
        cases published
    | direct => exact .announce record message made announces entitled
  cases inserted with
  | offline _ | conflict _ _ _ _ => exact .refused _
  | duplicate held _ found _ => exact goesOn ⟨held, found⟩
  | inserted _ _ _ =>
      refine goesOn ⟨record, ?_⟩
      rw [PaymentBook.get?_store, if_pos rfl]
  | keyTaken owner _ fresh owned =>
      obtain ⟨⟨id, found⟩, owns⟩ := PaymentBook.owner?_eq_some owned
      have named := keyed.id_eq id owner found
      have same := owns.trans made.key_eq
      subst named
      refine .accepted owner.id ⟨owner, found, .inl same⟩
        (.inr ⟨owner, found, same, fun asksFor => ?_⟩)
      rw [made.id_eq, ← asksFor, found] at fresh
      cases fresh

/-- A step of a request keeps what the stores are good for, and the request sound. -/
theorem sound_step {world : World} {traced : TracedRequest} {stage : IntakeStage}
    (member : traced ∈ asked) (serves : world.Serves settings asked)
    (sound : Sound settings asked world traced (.running stage)) :
    let result := Intake.step settings world stage
    world.Accumulates result.2 ∧ result.2.Serves settings asked ∧
      Sound settings asked result.2 traced result.1 := by
  intro result
  have taken := Intake.stepCase settings world stage
  change Intake.StepCase settings world stage result.1 result.2 at taken
  generalize result = outcome at taken
  rcases outcome with ⟨call, after⟩
  dsimp only at taken ⊢
  have unchanged : world.Accumulates world := .refl world
  cases taken with
  | silent => exact ⟨unchanged, serves, sound⟩
  | unreadable other => exact ⟨unchanged, serves, .refused _⟩
  | unpublished record message => exact ⟨unchanged, serves, .refused _⟩
  | recalled other entry receipt present decoded =>
      cases sound
      obtain ⟨id, written, entitled, delivered⟩ :=
        serves.remembered traced.key entry present
      rw [written, Receipt.decode_encode] at decoded
      cases decoded
      exact ⟨unchanged, serves, .accepted id entitled (.inl delivered)⟩
  | missed other store kept =>
      cases sound
      have accumulates := world.accumulates_withStore store
      refine ⟨accumulates, ?_, sound_prepare settings serves.inRange _ traced⟩
      exact serves.of_accumulates accumulates (List.Subset.refl _) serves.inRange
        serves.keyed kept
  | stored record message outcome book inserted =>
      cases sound with
      | store _ _ made announces =>
          have accumulates := world.accumulates_insert inserted
          refine ⟨accumulates, ?_, sound_ofOutcome member serves.keyed made announces
            inserted⟩
          apply serves.of_accumulates accumulates (List.Subset.refl _) serves.inRange
          · exact serves.keyed.insert inserted
          · exact fun _ _ found => found
  | published record message =>
      cases sound with
      | announce _ _ made announces entitled =>
          have accumulates := world.accumulates_append message
          refine ⟨accumulates, ?_, ?_⟩
          · exact serves.of_accumulates accumulates (List.Subset.refl _) serves.inRange
              serves.keyed fun _ _ found => found
          · apply Sound.remember record made
            · exact entitled.of_accumulates accumulates (List.Subset.refl _)
            · exact fun _ => world.published_append announces
  | unremembered record =>
      cases sound with
      | remember _ made entitled delivered =>
          exact ⟨unchanged, serves, .accepted record.id entitled (.inl delivered)⟩
  | remembered record =>
      cases sound with
      | remember _ made entitled delivered =>
          refine ⟨world.accumulates_withStore _, ⟨serves.inRange, serves.keyed, ?_⟩,
            .accepted record.id entitled (.inl delivered)⟩
          intro key entry found
          simp only [Store.set, Table.get?_insert] at found
          split at found
          · rename_i same
            cases found
            have owned : key = traced.key :=
              (Idempotency.key_injective same).trans made.key_eq
            subst owned
            exact ⟨record.id, rfl, entitled, delivered⟩
          · exact serves.remembered key entry found

end Handling

end Clearing
