import Clearing.Proofs.Bus.Relay
import Clearing.Proofs.Payment.Correspondence
import Clearing.Proofs.Payment.Desk
/-!
An intake that leaves its events to the relay.  Requests, relay passes and changes of
status take their steps in any order, stores fail and receipts expire in between, and
still every payment of the book has its one entry in the outbox, and whoever is
answered is told of such a payment.
-/

namespace Clearing

/-- What others than the intake do to its stores: nothing is added to them. -/
structure World.Upkeep (before after : World) : Prop where
  accumulates : before.Accumulates after
  moment : after.moment = before.moment
  keyed : before.book.Keyed → after.book.Keyed
  mirrored : before.book.Mirrored → after.book.Mirrored
  store : ∀ key entry, after.store.entries.get? key = some entry →
    before.store.entries.get? key = some entry

namespace World

variable (world : World)

theorem Upkeep.refl : world.Upkeep world where
  accumulates := .refl world
  moment := rfl
  keyed := id
  mirrored := id
  store _ _ found := found

theorem upkeep_append (message : OutboundMessage) :
    world.Upkeep { world with broker := (world.broker.append message).2 } where
  accumulates := world.accumulates_append message
  moment := rfl
  keyed := id
  mirrored := id
  store _ _ found := found

theorem upkeep_pollOutbox (limit : Nat) : world.Upkeep (world.pollOutbox limit).2 where
  accumulates := .of_eq rfl rfl rfl rfl
  moment := rfl
  keyed keyed := ⟨keyed.id_eq, keyed.key_unique⟩
  mirrored := id
  store _ _ found := found

theorem upkeep_markPublished (id : Nat) : world.Upkeep (world.markPublished id) where
  accumulates := world.accumulates_markPublished id
  moment := rfl
  keyed keyed := ⟨keyed.id_eq, keyed.key_unique⟩
  mirrored mirrored := mirrored.markPublished id
  store _ _ found := found

theorem upkeep_updateStatus (id : String) (status : PaymentStatus) :
    world.Upkeep (world.updateStatus id status).2 := by
  have accumulates := world.accumulates_updateStatus id status
  obtain ⟨answer, book, updated, after⟩ := world.exists_updateCase id status
  rw [after] at accumulates ⊢
  exact ⟨accumulates, rfl, (·.updateStatus updated), (·.updateStatus updated),
    fun _ _ found => found⟩

theorem upkeep_cachePurge : world.Upkeep world.cachePurge.2 := by
  unfold cachePurge
  cases world.faults.cachePurge with
  | some error => exact .refl world
  | none =>
      exact ⟨world.accumulates_withStore _, rfl, id, id, fun _ _ found =>
        Table.get?_of_get?_filter found⟩

theorem upkeep_relay (batch : Nat) (stage : RelayStage) :
    world.Upkeep (RelayPass.step batch world stage).2 := by
  have taken := RelayPass.stepCase batch world stage
  generalize RelayPass.step batch world stage = result at taken ⊢
  rcases result with ⟨call, after⟩
  dsimp only at taken ⊢
  cases taken with
  | unread error => exact .refl world
  | loaded => exact world.upkeep_pollOutbox batch
  | refused entry rest relayed error => exact .refl world
  | published entry rest relayed => exact world.upkeep_append entry.message
  | unmarked id rest relayed error => exact .refl world
  | marked id rest relayed => exact world.upkeep_markPublished id

end World

structure Relaying where
  batch : Nat
  call : RelayPass
deriving DecidableEq

structure Registry where
  desk : Desk
  passes : List Relaying

inductive RegistryEvent where
  /-- A request is made or takes a step, or something happens to the stores. -/
  | intake (event : DeskEvent)
  | beginPass (batch : Nat)
  /-- The relay pass at a place takes its next step. -/
  | relay (place : Nat)
  | updateStatus (id : String) (status : PaymentStatus)
  /-- Entries of the cache that have expired are removed. -/
  | purge

namespace Registry

def settings (topic : String) (lifetime : Nat) : IntakeSettings where
  dispatch := .outbox
  topic := topic
  lifetime := lifetime

def opened (partitions : Int) : Registry where
  desk := .opened partitions
  passes := []

def withWorld (registry : Registry) (world : World) : Registry :=
  { registry with desk := { registry.desk with world := world } }

def apply (topic : String) (lifetime : Nat) (registry : Registry) :
    RegistryEvent → Registry
  | .intake event =>
      { registry with desk := registry.desk.apply (settings topic lifetime) event }
  | .beginPass batch =>
      { registry with passes := registry.passes ++ [⟨batch, .begin⟩] }
  | .relay place =>
      match registry.passes[place]? with
      | none => registry
      | some pass =>
          let advanced := Call.advance (RelayPass.step pass.batch) registry.desk.world
            pass.call
          { registry.withWorld advanced.2 with
            passes := registry.passes.set place { pass with call := advanced.1 } }
  | .updateStatus id status =>
      registry.withWorld (registry.desk.world.updateStatus id status).2
  | .purge => registry.withWorld registry.desk.world.cachePurge.2

def after (topic : String) (lifetime : Nat) (registry : Registry)
    (events : List RegistryEvent) : Registry :=
  events.foldl (apply topic lifetime) registry

end Registry

def Handling.Described (call : Intake) : Prop :=
  ∀ record message, call = .running (.store record message) → message.Describes record

theorem Handling.described_prepare (settings : IntakeSettings) {moment : Timestamp}
    (inRange : Date.YearInRange moment.date.year) (traced : TracedRequest) :
    Described (Intake.prepare settings moment traced) := by
  intro record message prepared
  rcases Intake.prepare_cases settings moment traced with
    ⟨error, refused⟩ | ⟨payment, _, made⟩
  · rw [refused] at prepared
    cases prepared
  · rw [made] at prepared
    cases prepared
    exact ⟨rfl, _, SettlementEvent.decode_ofPayment inRange, rfl, rfl, rfl, rfl, rfl⟩

theorem Handling.mirrored_step (topic : String) (lifetime : Nat) {world : World}
    {stage : IntakeStage} (inRange : Date.YearInRange world.moment.date.year)
    (mirrored : world.book.Mirrored) (described : Described (.running stage)) :
    let result := Intake.step (Registry.settings topic lifetime) world stage
    result.2.book.Mirrored ∧ Described result.1 := by
  intro result
  have taken := Intake.stepCase (Registry.settings topic lifetime) world stage
  change Intake.StepCase _ world stage result.1 result.2 at taken
  generalize result = outcome at taken
  rcases outcome with ⟨call, after⟩
  dsimp only at taken ⊢
  cases taken with
  | silent => exact ⟨mirrored, described⟩
  | missed traced store _ => exact ⟨mirrored, described_prepare _ inRange traced⟩
  | stored record message outcome book inserted =>
      refine ⟨mirrored.insert (described record message rfl) inserted, ?_⟩
      intro other otherMessage again
      cases inserted <;> cases again
  | unreadable _ | recalled _ _ _ _ _ | unpublished _ _ | published _ _
  | unremembered _ | remembered _ =>
      refine ⟨mirrored, fun record message again => ?_⟩
      cases again

namespace Registry

variable {topic : String} {lifetime : Nat} {registry : Registry}

structure Sound (topic : String) (lifetime : Nat) (registry : Registry) : Prop where
  desk : registry.desk.Sound (settings topic lifetime)
  mirrored : registry.desk.world.book.Mirrored
  described : ∀ handling ∈ registry.desk.handlings, Handling.Described handling.call

theorem sound_opened (topic : String) (lifetime : Nat) (partitions : Int) :
    (opened partitions).Sound topic lifetime where
  desk := Desk.sound_opened (settings topic lifetime) partitions
  mirrored := .nil
  described handling member := by cases member

theorem Sound.withWorld (sound : registry.Sound topic lifetime) {world : World}
    (upkeep : registry.desk.world.Upkeep world) :
    (registry.withWorld world).Sound topic lifetime where
  desk :=
    { serves :=
        sound.desk.serves.of_accumulates upkeep.accumulates (List.Subset.refl _)
          (upkeep.moment ▸ sound.desk.serves.inRange)
          (upkeep.keyed sound.desk.serves.keyed) upkeep.store
      handlings := fun handling member =>
        (sound.desk.handlings handling member).of_accumulates upkeep.accumulates
          (List.Subset.refl _) }
  mirrored := upkeep.mirrored sound.mirrored
  described := sound.described

theorem Sound.step (sound : registry.Sound topic lifetime) (place : Nat) :
    let desk := registry.desk.apply (settings topic lifetime) (.step place)
    desk.world.book.Mirrored ∧
      ∀ handling ∈ desk.handlings, Handling.Described handling.call := by
  simp only [Desk.apply]
  cases present : registry.desk.handlings[place]? with
  | none => exact ⟨sound.mirrored, sound.described⟩
  | some handling =>
      have current := sound.described handling (List.mem_of_getElem? present)
      obtain ⟨mirrored, next⟩ :
          let result := Call.advance (Intake.step (settings topic lifetime))
            registry.desk.world handling.call
          result.2.book.Mirrored ∧ Handling.Described result.1 := by
        cases shape : handling.call with
        | answered answer =>
            rw [shape] at current
            exact ⟨sound.mirrored, current⟩
        | running stage =>
            rw [shape] at current
            exact Handling.mirrored_step topic lifetime sound.desk.serves.inRange
              sound.mirrored current
      refine ⟨mirrored, fun other member => ?_⟩
      rcases List.mem_or_eq_of_mem_set member with earlier | rfl
      · exact sound.described other earlier
      · exact next

theorem Sound.intake (sound : registry.Sound topic lifetime) (event : DeskEvent) :
    (registry.apply topic lifetime (.intake event)).Sound topic lifetime := by
  have desk := sound.desk.after [event]
  cases event with
  | ask traced =>
      refine ⟨desk, sound.mirrored, fun handling member => ?_⟩
      rcases List.mem_append.mp member with earlier | new
      · exact sound.described handling earlier
      · rw [List.mem_singleton.mp new]
        intro record message begun
        dsimp only [Intake.begin] at begun
        split at begun <;> cases begun
  | step place =>
      obtain ⟨mirrored, described⟩ := sound.step place
      exact ⟨desk, mirrored, described⟩
  | disturb disturbance spares =>
      refine ⟨desk, ?_, sound.described⟩
      cases disturbance <;> exact sound.mirrored

theorem Sound.apply (sound : registry.Sound topic lifetime) (event : RegistryEvent) :
    (registry.apply topic lifetime event).Sound topic lifetime := by
  cases event with
  | intake event => exact sound.intake event
  | beginPass batch => exact ⟨sound.desk, sound.mirrored, sound.described⟩
  | updateStatus id status =>
      exact sound.withWorld (registry.desk.world.upkeep_updateStatus id status)
  | purge => exact sound.withWorld registry.desk.world.upkeep_cachePurge
  | relay place =>
      simp only [Registry.apply]
      cases registry.passes[place]? with
      | none => exact sound
      | some pass =>
          have upkeep : registry.desk.world.Upkeep
              (Call.advance (RelayPass.step pass.batch) registry.desk.world
                pass.call).2 := by
            cases pass.call with
            | answered answer => exact .refl _
            | running stage => exact registry.desk.world.upkeep_relay pass.batch stage
          have after := sound.withWorld upkeep
          exact ⟨after.desk, after.mirrored, after.described⟩

theorem Sound.after (sound : registry.Sound topic lifetime)
    (events : List RegistryEvent) :
    (registry.after topic lifetime events).Sound topic lifetime := by
  induction events generalizing registry with
  | nil => exact sound
  | cons event rest inductionHypothesis => exact inductionHypothesis (sound.apply event)

/--
However requests, relay passes and changes of status are interleaved, and whatever
fails or expires meanwhile, the outbox has ever got one entry for each payment of the
book, in the order of their storing, with the key and the event of the payment; and a
request that is answered is told of a payment of the book, which has one entry.
-/
theorem outbox_mirrors_book (topic : String) (lifetime : Nat) (partitions : Int)
    (events : List RegistryEvent) :
    let desk := ((opened partitions).after topic lifetime events).desk
    let book := desk.world.book
    List.Forall₂ (fun record entry => entry.message.Describes record)
        book.records.values book.outbox.entries ∧
      ∀ handling ∈ desk.handlings, ∀ receipt,
        handling.call = .answered (.ok receipt) →
        ∃ record entry, book.records.get? receipt.id = some record ∧
          record.id = receipt.id ∧
          book.outbox.entries.filter (fun entry => entry.message.key = receipt.id) =
            [entry] ∧
          entry.message.Describes record := by
  intro desk book
  have sound := (sound_opened topic lifetime partitions).after events
  refine ⟨sound.mirrored, fun handling member receipt answered => ?_⟩
  have told := sound.desk.handlings handling member
  rw [answered] at told
  cases told with
  | accepted id entitled _ =>
      obtain ⟨record, found, _⟩ := entitled
      obtain ⟨entry, alone, describes⟩ :=
        sound.mirrored.exists_entry sound.desk.serves.keyed found
      exact ⟨record, entry, found, sound.desk.serves.keyed.id_eq _ _ found, alone,
        describes⟩

end Registry

end Clearing
