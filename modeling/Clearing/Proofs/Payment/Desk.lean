import Clearing.Proofs.Payment.Handlings
/-!
One intake that many requests are handled by at the same time.  The steps of the
requests are taken in any order, and whatever the intake depends on may fail in
between, but nobody else writes to its cache.  Two requests with one idempotency
key get different answers only if one of them asked for the payment of another
key, and whoever is told the owner of a key is not told that it was published.
-/

namespace Clearing

def Disturbance.SparesCache : Disturbance → Prop
  | .setCache _ => False
  | .openAccount _ | .setLedger _ | .setBook _ | .setBroker _ | .setFaults _
  | .setClock _ _ _ => True

structure Handling where
  traced : TracedRequest
  call : Intake
deriving DecidableEq

structure Desk where
  world : World
  handlings : List Handling

inductive DeskEvent where
  | ask (traced : TracedRequest)
  /-- The request at a place takes its next step. -/
  | step (place : Nat)
  | disturb (disturbance : Disturbance) (spares : disturbance.SparesCache)

namespace Desk

def opened (partitions : Int) : Desk where
  world := .ofPartitions partitions
  handlings := []

def apply (settings : IntakeSettings) (desk : Desk) : DeskEvent → Desk
  | .ask traced =>
      { desk with
        handlings := desk.handlings ++ [⟨traced, Intake.begin traced⟩] }
  | .step place =>
      match desk.handlings[place]? with
      | none => desk
      | some handling =>
          let (call, world) :=
            Call.advance (Intake.step settings) desk.world handling.call
          { world
            handlings := desk.handlings.set place { handling with call := call } }
  | .disturb disturbance _ => { desk with world := desk.world.disturb disturbance }

def after (settings : IntakeSettings) (desk : Desk) (events : List DeskEvent) : Desk :=
  events.foldl (apply settings) desk

def asked (desk : Desk) : List TracedRequest :=
  desk.handlings.map Handling.traced

/-- A request with the key was answered with the receipt. -/
def Answers (desk : Desk) (key : String) (receipt : Receipt) : Prop :=
  ∃ handling ∈ desk.handlings,
    handling.traced.key = key ∧ handling.call = .answered (.ok receipt)

/-- With the key, a payment was asked for that the book has under another key. -/
def Strays (desk : Desk) (key id : String) : Prop :=
  (∃ handling ∈ desk.handlings,
    handling.traced.key = key ∧ Text.trim handling.traced.request.id = id) ∧
  ∃ record, desk.world.book.records.get? id = some record ∧
    record.idempotencyKey ≠ key

structure Sound (settings : IntakeSettings) (desk : Desk) : Prop where
  serves : desk.world.Serves settings desk.asked
  handlings : ∀ handling ∈ desk.handlings,
    Handling.Sound settings desk.asked desk.world handling.traced handling.call

theorem sound_opened (settings : IntakeSettings) (partitions : Int) :
    (opened partitions).Sound settings where
  serves :=
    { inRange := (by decide : Date.YearInRange Timestamp.sample.date.year)
      keyed := PaymentBook.keyed_empty
      remembered := fun key entry found => by cases found }
  handlings handling member := by cases member

variable {settings : IntakeSettings} {desk : Desk}

theorem Sound.ask (sound : desk.Sound settings) (traced : TracedRequest) :
    (desk.apply settings (.ask traced)).Sound settings := by
  have subset : desk.asked ⊆ (desk.apply settings (.ask traced)).asked := by
    unfold asked apply
    rw [List.map_append]
    exact List.subset_append_left _ _
  have accumulates : desk.world.Accumulates desk.world := .refl desk.world
  constructor
  · exact sound.serves.of_accumulates accumulates subset sound.serves.inRange
      sound.serves.keyed fun _ _ found => found
  · intro handling member
    rcases List.mem_append.mp member with earlier | new
    · exact (sound.handlings handling earlier).of_accumulates accumulates subset
    · rw [List.mem_singleton.mp new]
      dsimp only [apply]
      exact Handling.sound_begin desk.world traced

theorem asked_set {handlings : List Handling} {place : Nat} {handling : Handling}
    (present : handlings[place]? = some handling) (call : Intake) :
    (handlings.set place { handling with call := call }).map Handling.traced =
      handlings.map Handling.traced := by
  obtain ⟨bound, rfl⟩ := List.getElem?_eq_some_iff.mp present
  have inside : place < (handlings.map Handling.traced).length := by
    rw [List.length_map]
    exact bound
  have kept := List.set_getElem_self inside
  rw [List.getElem_map] at kept
  rw [List.map_set]
  exact kept

theorem Sound.step (sound : desk.Sound settings) (place : Nat) :
    (desk.apply settings (.step place)).Sound settings := by
  simp only [apply]
  cases present : desk.handlings[place]? with
  | none => exact sound
  | some handling =>
      have member := List.mem_of_getElem? present
      have current := sound.handlings handling member
      have asked (world : World) (call : Intake) :
          ({ world, handlings := desk.handlings.set place { handling with call := call } } :
            Desk).asked = desk.asked :=
        asked_set present call
      obtain ⟨accumulates, serves, next⟩ :
          let result := Call.advance (Intake.step settings) desk.world handling.call
          desk.world.Accumulates result.2 ∧ result.2.Serves settings desk.asked ∧
            Handling.Sound settings desk.asked result.2 handling.traced result.1 := by
        cases shape : handling.call with
        | answered answer =>
            rw [shape] at current
            exact ⟨.refl desk.world, sound.serves, current⟩
        | running stage =>
            rw [shape] at current
            exact Handling.sound_step (List.mem_map.mpr ⟨handling, member, rfl⟩)
              sound.serves current
      constructor
      · rw [asked]
        exact serves
      · intro other otherMember
        rw [asked]
        rcases List.mem_or_eq_of_mem_set otherMember with earlier | rfl
        · exact (sound.handlings other earlier).of_accumulates accumulates
            (List.Subset.refl _)
        · exact next

theorem Sound.disturb (sound : desk.Sound settings) (disturbance : Disturbance)
    (spares : disturbance.SparesCache) :
    (desk.apply settings (.disturb disturbance spares)).Sound settings := by
  have accumulates := desk.world.accumulates_disturb disturbance
  constructor
  · have serves := sound.serves
    apply serves.of_accumulates accumulates (List.Subset.refl _)
    · cases disturbance with
      | setClock now moment inRange => exact inRange
      | openAccount _ | setLedger _ | setBook _ | setBroker _ | setFaults _
      | setCache _ => exact serves.inRange
    · cases disturbance <;> exact ⟨serves.keyed.id_eq, serves.keyed.key_unique⟩
    · intro key entry found
      cases disturbance with
      | setCache store => cases spares
      | openAccount _ | setLedger _ | setBook _ | setBroker _ | setFaults _
      | setClock _ _ _ => exact found
  · intro handling member
    exact (sound.handlings handling member).of_accumulates accumulates
      (List.Subset.refl _)

theorem Sound.after (sound : desk.Sound settings) (events : List DeskEvent) :
    (desk.after settings events).Sound settings := by
  induction events generalizing desk with
  | nil => exact sound
  | cons event rest inductionHypothesis =>
      apply inductionHypothesis
      cases event with
      | ask traced => exact sound.ask traced
      | step place => exact sound.step place
      | disturb disturbance spares => exact sound.disturb disturbance spares

theorem strays_or_owned {key id : String}
    (entitled : desk.world.Entitled desk.asked key id) :
    desk.Strays key id ∨ ∃ record, desk.world.book.records.get? id = some record ∧
      record.idempotencyKey = key := by
  obtain ⟨record, found, reason⟩ := entitled
  by_cases same : record.idempotencyKey = key
  · exact .inr ⟨record, found, same⟩
  · refine .inl ⟨?_, record, found, same⟩
    rcases reason with owned | ⟨traced, member, asks, named⟩
    · exact absurd owned same
    · obtain ⟨handling, handlingMember, rfl⟩ := List.mem_map.mp member
      exact ⟨handling, handlingMember, asks, named⟩

theorem Sound.entitled_of_answers (sound : desk.Sound settings) {key : String}
    {receipt : Receipt} (answers : desk.Answers key receipt) :
    receipt = .pending receipt.id ∧ desk.world.Entitled desk.asked key receipt.id := by
  obtain ⟨handling, member, rfl, answered⟩ := answers
  have held := sound.handlings handling member
  rw [answered] at held
  cases held with
  | accepted id entitled source => exact ⟨rfl, entitled⟩

/--
However the steps of the requests are interleaved, and whatever fails meanwhile,
two requests with one idempotency key get the same answer, unless one of them is
answered with a payment that was asked for with this key although the book has it
under another.
-/
theorem answers_of_key_agree (settings : IntakeSettings) (partitions : Int)
    (events : List DeskEvent) (key : String) (first second : Receipt)
    (firstAnswer : ((opened partitions).after settings events).Answers key first)
    (secondAnswer : ((opened partitions).after settings events).Answers key second) :
    first = second ∨ ((opened partitions).after settings events).Strays key first.id ∨
      ((opened partitions).after settings events).Strays key second.id := by
  have sound := (sound_opened settings partitions).after events
  obtain ⟨firstShape, firstEntitled⟩ := sound.entitled_of_answers firstAnswer
  obtain ⟨secondShape, secondEntitled⟩ := sound.entitled_of_answers secondAnswer
  rcases strays_or_owned firstEntitled with strays | ⟨one, oneFound, oneKey⟩
  · exact .inr (.inl strays)
  rcases strays_or_owned secondEntitled with strays | ⟨other, otherFound, otherKey⟩
  · exact .inr (.inr strays)
  have same : first.id = second.id :=
    sound.serves.keyed.key_unique _ _ one other oneFound otherFound
      (oneKey.trans otherKey.symm)
  rw [firstShape, secondShape, same]
  exact .inl rfl

theorem answers_of_getElem? {place : Nat} {traced : TracedRequest} {receipt : Receipt}
    (found : desk.handlings[place]? = some ⟨traced, .answered (.ok receipt)⟩)
    (key : String) (same : traced.key = key) : desk.Answers key receipt :=
  ⟨_, List.mem_of_getElem? found, same, rfl⟩

/-- A request to pay the rent, with an id and an idempotency key. -/
def payRent (id key : String) : TracedRequest where
  request :=
    { id
      source := "33333333-3333-3333-3333-333333333333"
      destination := "44444444-4444-4444-4444-444444444444"
      amount := { coefficient := 27182000, scale := 5 }
      currency := "EUR"
      idempotencyKey := key }
  context :=
    .root
      { number := 2
        positive := by decide
        bounded := by decide }
      { number := 3
        positive := by decide
        bounded := by decide }
  span :=
    { number := 5
      positive := by decide
      bounded := by decide }

def directIntake : IntakeSettings where
  dispatch := .direct
  topic := "payments"
  lifetime := 10 ^ 9

/--
The broker is lost while a first payment is to be published, and a second one
with the same key is asked for.
-/
def lostEvent : List DeskEvent :=
  [.disturb (.setBroker (some .storage)) trivial,
    .ask (payRent "first" "may"), .step 0, .step 0, .step 0,
    .ask (payRent "second" "may"), .step 1, .step 1]

/-- A third payment with a key of its own is asked for again with the first key. -/
def strayingKey : List DeskEvent :=
  lostEvent ++
    [.disturb (.setBroker none) trivial,
      .ask (payRent "third" "june"), .step 2, .step 2, .step 2, .step 2,
      .ask (payRent "third" "may"), .step 3, .step 3, .step 3, .step 3]

/-- The key of the first payment is answered with the first and with the third. -/
theorem answers_of_key_agree_strayingKey :
    let desk := (opened 1).after directIntake strayingKey
    desk.Answers "may" (.pending "first") ∧ desk.Answers "may" (.pending "third") ∧
      desk.Strays "may" "third" := by
  have run :
      let desk := (opened 1).after directIntake strayingKey
      desk.handlings[1]? =
          some ⟨payRent "second" "may", .answered (.ok (.pending "first"))⟩ ∧
        desk.handlings[3]? =
          some ⟨payRent "third" "may", .answered (.ok (.pending "third"))⟩ ∧
        (desk.world.book.records.get? "first").map PaymentRecord.idempotencyKey =
          some "may" := by
    decide +kernel
  obtain ⟨second, last, owned⟩ := run
  have firstAnswer := answers_of_getElem? second "may" (by decide +kernel)
  have lastAnswer := answers_of_getElem? last "may" (by decide +kernel)
  refine ⟨firstAnswer, lastAnswer, ?_⟩
  rcases answers_of_key_agree directIntake 1 strayingKey "may" (.pending "first")
      (.pending "third") firstAnswer lastAnswer with same | strays | strays
  · exact absurd same (by decide)
  · obtain ⟨_, record, found, other⟩ := strays
    have held := (congrArg (Option.map PaymentRecord.idempotencyKey) found).symm.trans owned
    exact absurd (Option.some.inj held) other
  · exact strays

/--
A request that is answered by an intake which publishes for itself has its event
in the log of the topic, unless it was answered with the owner of its key, whom
it did not ask for.
-/
theorem direct_answers_published (settings : IntakeSettings)
    (direct : settings.dispatch = .direct) (partitions : Int) (events : List DeskEvent)
    (handling : Handling)
    (member : handling ∈ ((opened partitions).after settings events).handlings)
    (receipt : Receipt) (answered : handling.call = .answered (.ok receipt)) :
    ((opened partitions).after settings events).world.Published settings.topic
        receipt.id ∨
      ((opened partitions).after settings events).world.Borrowed handling.traced
        receipt.id := by
  have sound := (sound_opened settings partitions).after events
  have held := sound.handlings handling member
  rw [answered] at held
  cases held with
  | accepted id entitled source =>
      rcases source with delivered | borrowed
      · exact .inl (delivered direct)
      · exact .inr borrowed

/-- The second request is answered with the first payment, which nobody published. -/
theorem direct_answers_published_lostEvent :
    let desk := (opened 1).after directIntake lostEvent
    let handling : Handling :=
      ⟨payRent "second" "may", .answered (.ok (.pending "first"))⟩
    handling ∈ desk.handlings ∧ ¬ desk.world.Published "payments" "first" ∧
      desk.world.Borrowed handling.traced "first" := by
  have run :
      let desk := (opened 1).after directIntake lostEvent
      desk.handlings[1]? =
          some ⟨payRent "second" "may", .answered (.ok (.pending "first"))⟩ ∧
        desk.world.broker.logs.entries = [] := by
    decide +kernel
  obtain ⟨second, empty⟩ := run
  have member := List.mem_of_getElem? second
  have unpublished :
      ¬ ((opened 1).after directIntake lostEvent).world.Published "payments" "first" := by
    rintro ⟨partition, entry, logged, _⟩
    unfold Broker.log Table.get? at logged
    rw [empty] at logged
    cases logged
  refine ⟨member, unpublished, ?_⟩
  rcases direct_answers_published directIntake rfl 1 lostEvent _ member
      (.pending "first") rfl with published | borrowed
  · exact absurd published unpublished
  · exact borrowed

end Desk

end Clearing
