import Clearing.Proofs.Bus.Relay
import Clearing.Proofs.Pipeline.Operations
/-!
From a request to the topic.  The intake stores a payment before it announces
it, and the relay publishes what waits in the outbox, so that nothing reaches
the topic but what announces a payment of the book.
-/

namespace Clearing

def IntakeStage.Sound (world : World) : IntakeStage → Prop
  | .store record message => Prepared record message
  | .announce _ message => world.Announced message.payload
  | .recall _ | .remember _ => True

def RelayStage.Sound (world : World) : RelayStage → Prop
  | .load => True
  | .publish entry rest _ =>
      ∀ pending ∈ entry :: rest, world.Announced pending.message.payload
  | .mark _ rest _ => ∀ pending ∈ rest, world.Announced pending.message.payload

theorem IntakeStage.Sound.of_grows {before after : World} {stage : IntakeStage}
    (sound : stage.Sound before) (grows : before.Grows after) :
    stage.Sound after := by
  rcases stage with traced | ⟨record, message⟩ | ⟨record, message⟩ | record
  · exact trivial
  · exact sound
  · exact grows.announced sound
  · exact trivial

theorem RelayStage.Sound.of_grows {before after : World} {stage : RelayStage}
    (sound : stage.Sound before) (grows : before.Grows after) :
    stage.Sound after := by
  cases stage with
  | load => exact trivial
  | publish entry rest relayed | mark id rest relayed =>
      exact fun pending member => grows.announced (sound pending member)

namespace Intake

theorem prepare_sound (settings : IntakeSettings) {moment : Timestamp}
    (inRange : Date.YearInRange moment.date.year) (traced : TracedRequest)
    (world : World) :
    (prepare settings moment traced).AtStage (IntakeStage.Sound world) := by
  rcases prepare_cases settings moment traced with
    ⟨error, refused⟩ | ⟨payment, valid, prepared⟩
  · rw [refused]
    exact trivial
  · rw [prepared]
    exact prepared_of_validate valid inRange _ _

theorem eq_of_storedMessage {settings : IntakeSettings}
    {message other : OutboundMessage}
    (stored : storedMessage settings message = some other) : other = message := by
  rw [storedMessage] at stored
  split at stored <;> cases stored
  rfl

theorem ofOutcome_sound (settings : IntakeSettings) (record : PaymentRecord)
    {message : OutboundMessage} {world : World}
    {outcome : Except PaymentError InsertOutcome}
    (announced : outcome = .ok .inserted ∨ outcome = .ok .duplicate →
      world.Announced message.payload) :
    (ofOutcome settings record message outcome).AtStage
      (IntakeStage.Sound world) := by
  have stored (known : outcome = .ok .inserted ∨ outcome = .ok .duplicate) :
      (afterStore settings record message).AtStage (IntakeStage.Sound world) := by
    rw [afterStore]
    split
    · exact trivial
    · exact announced known
  rcases outcome with error | outcome
  · cases error <;> exact trivial
  · cases outcome with
    | inserted => exact stored (.inl rfl)
    | duplicate => exact stored (.inr rfl)
    | keyTaken owner => exact trivial

theorem step_sound {world : World}
    (inRange : Date.YearInRange world.moment.date.year)
    (settings : IntakeSettings) {stage : IntakeStage} (sound : stage.Sound world) :
    world.Extends (step settings world stage).2 ∧
      (step settings world stage).1.AtStage
        (IntakeStage.Sound (step settings world stage).2) := by
  have taken := stepCase settings world stage
  generalize step settings world stage = result at taken ⊢
  rcases result with ⟨call, after⟩
  dsimp only at taken ⊢
  have unchanged : world.Extends world := .refl world
  cases taken with
  | silent stage => exact ⟨unchanged, sound⟩
  | unreadable traced => exact ⟨unchanged, trivial⟩
  | recalled traced entry receipt present decoded => exact ⟨unchanged, trivial⟩
  | missed traced store kept =>
      exact ⟨world.extends_withStore store, prepare_sound settings inRange traced _⟩
  | stored record message outcome book inserted =>
      obtain ⟨extended, announced⟩ :=
        world.extends_insert sound (fun _ => eq_of_storedMessage) inserted
      exact ⟨extended, ofOutcome_sound settings record announced⟩
  | unpublished record message => exact ⟨unchanged, trivial⟩
  | published record message => exact ⟨World.extends_append sound, trivial⟩
  | unremembered record => exact ⟨unchanged, trivial⟩
  | remembered record => exact ⟨world.extends_withStore _, trivial⟩

end Intake

namespace RelayPass

theorem next_sound {world : World} (relayed : Nat) {entries : List OutboxEntry}
    (announced : ∀ pending ∈ entries, world.Announced pending.message.payload) :
    (next relayed entries).AtStage (RelayStage.Sound world) := by
  cases entries with
  | nil => exact trivial
  | cons entry rest => exact announced

/-- The relay publishes nothing but what waits in the outbox. -/
theorem step_sound {world : World}
    (outbox : ∀ entry ∈ world.book.outbox.entries,
      world.Announced entry.message.payload)
    (batch : Nat) {stage : RelayStage} (sound : stage.Sound world) :
    world.Extends (step batch world stage).2 ∧
      (step batch world stage).1.AtStage
        (RelayStage.Sound (step batch world stage).2) := by
  have taken := stepCase batch world stage
  generalize step batch world stage = result at taken ⊢
  rcases result with ⟨call, after⟩
  dsimp only at taken ⊢
  have unchanged : world.Extends world := .refl world
  cases taken with
  | unread error => exact ⟨unchanged, trivial⟩
  | loaded =>
      have polled := world.extends_pollOutbox batch
      refine ⟨polled, next_sound 0 fun pending member => ?_⟩
      apply polled.grows.announced
      apply outbox
      exact (List.mem_filter.mp (List.mem_of_mem_take member)).1
  | refused entry rest relayed error => exact ⟨unchanged, trivial⟩
  | published entry rest relayed =>
      have published := World.extends_append (sound entry List.mem_cons_self)
      exact ⟨published, fun pending member =>
        published.grows.announced (sound pending (List.mem_cons_of_mem _ member))⟩
  | unmarked id rest relayed error => exact ⟨unchanged, trivial⟩
  | marked id rest relayed =>
      have marked := world.extends_markPublished id
      exact ⟨marked, next_sound _ fun pending member =>
        marked.grows.announced (sound pending member)⟩

end RelayPass

end Clearing
