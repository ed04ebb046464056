import Clearing.Proofs.Balance.Inquiries
import Clearing.Proofs.Payment.Desk
import Clearing.Proofs.Payment.Recollection
/-!
Requests that are made again.  A teller serves one request after another, while the services
that share the cache are at work and the stores behind it change as they will.  The receipt that
a request is remembered with stays where it is until it expires, and until then every request
with its key is answered with it.
-/

namespace Clearing

/-- What goes on around an intake. -/
inductive Traffic where
  /-- An inquiry takes a step, whichever it has come to. -/
  | inquire (lifetime : Nat) (stage : InquiryStage)
  | deliver (sink : StatusSink) (stage : DeliveryStage)
  /-- Entries of the cache that have expired are removed. -/
  | purge
  | elapse (duration : Nat) (moment : Timestamp)
  | setFaults (faults : Faults)
  /-- The stores behind the cache become whatever others make of them. -/
  | replace (ledger : Ledger) (book : PaymentBook) (broker : Broker)

namespace World

def undergo (world : World) : Traffic → World
  | .inquire lifetime stage => (Inquiry.step lifetime world stage).2
  | .deliver sink stage => (Delivery.step sink world stage).2
  | .purge => world.cachePurge.2
  | .elapse duration moment => { world with now := world.now + duration, moment := moment }
  | .setFaults faults => { world with faults := faults }
  | .replace ledger book broker =>
      { world with ledger := ledger, book := book, broker := broker }

/-- Nothing but the clock itself turns it, and never back. -/
theorem now_undergo (world : World) (traffic : Traffic) :
    world.now ≤ (world.undergo traffic).now := by
  cases traffic with
  | elapse duration moment => exact Nat.le_add_right world.now duration
  | setFaults _ | replace _ _ _ => exact Nat.le_refl world.now
  | purge =>
      unfold undergo cachePurge
      cases world.faults.cachePurge <;> exact Nat.le_refl world.now
  | inquire lifetime stage =>
      have taken := Inquiry.stepCase lifetime world stage
      rw [undergo]
      generalize Inquiry.step lifetime world stage = result at taken ⊢
      rcases result with ⟨call, after⟩
      cases taken <;> exact Nat.le_refl _
  | deliver sink stage =>
      have effect := Delivery.effect_step sink world stage
      rw [undergo]
      generalize (Delivery.step sink world stage).2 = after at effect ⊢
      cases effect with
      | nothing | transferred _ | recorded _ => exact Nat.le_refl world.now
      | dropped account =>
          unfold dropBalance cacheDelete
          cases world.faults.cacheDelete <;> exact Nat.le_refl world.now

/-- Whatever goes on, no receipt is lost before it expires. -/
theorem live_undergo {world : World} {traffic : Traffic} {key : String} {entry : StoreEntry}
    (live : world.store.Live world.now (Idempotency.key key) entry)
    (unexpired : (world.undergo traffic).now < entry.expires) :
    (world.undergo traffic).store.Live (world.undergo traffic).now (Idempotency.key key)
      entry := by
  refine ⟨?_, unexpired⟩
  have foreign (account : String) : Idempotency.key key ≠ BalanceCache.key account :=
    (BalanceCache.key_ne_key account key).symm
  cases traffic with
  | elapse _ _ | setFaults _ | replace _ _ _ => exact live.found
  | inquire lifetime stage =>
      exact (Inquiry.entries_step lifetime world stage foreign).trans live.found
  | deliver sink stage =>
      exact ((Delivery.effect_step sink world stage).entries foreign).trans live.found
  | purge =>
      unfold undergo cachePurge
      cases world.faults.cachePurge with
      | some fault => exact live.found
      | none =>
          exact (world.store.entries_purge_eq_some_iff _ _ entry).mpr
            ⟨live.found, live.unexpired⟩

end World

namespace Intake

variable (settings : IntakeSettings) (world : World) (stage : IntakeStage)

theorem now_step : (step settings world stage).2.now = world.now := by
  have taken := stepCase settings world stage
  generalize step settings world stage = result at taken ⊢
  rcases result with ⟨call, after⟩
  cases taken <;> rfl

/-- A request goes by one key from its first stage to its last. -/
theorem key_step :
    (step settings world stage).1.AtStage fun next => next.key = stage.key := by
  have taken := stepCase settings world stage
  generalize step settings world stage = result at taken ⊢
  rcases result with ⟨call, after⟩
  dsimp only at taken ⊢
  cases taken with
  | silent => exact rfl
  | unreadable _ | recalled _ _ _ _ _ | unpublished _ _ | unremembered _ | remembered _ =>
      exact trivial
  | published record message => exact rfl
  | missed traced store _ =>
      rcases prepare_cases settings world.moment traced with
        ⟨error, refused⟩ | ⟨payment, valid, prepared⟩
      · rw [refused]
        exact trivial
      · rw [prepared]
        exact (PaymentRequest.taken_of_validate_eq_ok valid).2.1
  | stored record message outcome book inserted =>
      have goesOn : (afterStore settings record message).AtStage fun next =>
          next.key = (IntakeStage.store record message).key := by
        unfold afterStore
        cases settings.dispatch <;> exact rfl
      cases inserted with
      | offline _ | conflict _ _ _ _ | keyTaken _ _ _ _ => exact trivial
      | duplicate _ _ _ _ | inserted _ _ _ => exact goesOn

variable {world}

/-- As long as its receipt is remembered, a request is answered or waits, and changes nothing. -/
theorem recall_of_remembers {traced : TracedRequest} {receipt : Receipt}
    (remembered : world.Remembers traced.key receipt) :
    (step settings world (.recall traced)).2 = world ∧
      (step settings world (.recall traced)).1.AtStage fun next => next = .recall traced := by
  rw [step]
  split
  · exact ⟨rfl, rfl⟩
  · have looked := world.recollection traced.key
    generalize world.recallReceipt traced.key = result at looked ⊢
    rcases result with ⟨answer, after⟩
    dsimp only at looked
    cases looked with
    | failed fault _ => exact ⟨rfl, trivial⟩
    | found other _ _ => exact ⟨rfl, trivial⟩
    | missed store missed => exact absurd remembered (missed.forgotten receipt)

end Intake

/-- From this stage on, nothing is stored under the key that was not looked for first. -/
def IntakeStage.Spares (key : String) (stage : IntakeStage) : Prop :=
  stage.key = key → ∃ traced, stage = .recall traced

/-- A receipt outlives the steps of other requests, and those with its key do not get to write. -/
theorem Intake.live_step (settings : IntakeSettings) {world : World} {stage : IntakeStage}
    {key : String} {entry : StoreEntry} {receipt : Receipt}
    (live : world.store.Live world.now (Idempotency.key key) entry)
    (legible : Receipt.decode entry.value = .ok receipt) (spares : stage.Spares key) :
    let result := step settings world stage
    result.2.store.Live result.2.now (Idempotency.key key) entry ∧
      result.1.AtStage (IntakeStage.Spares key) := by
  intro result
  by_cases same : stage.key = key
  · -- such a request is still to be looked up, and its receipt is there
    obtain ⟨traced, rfl⟩ := spares same
    rw [IntakeStage.key] at same
    have remembered : world.Remembers traced.key receipt := ⟨entry, same ▸ live, legible⟩
    obtain ⟨unchanged, waits⟩ := recall_of_remembers settings remembered
    refine ⟨unchanged ▸ live, waits.imp fun next eq _ => ⟨traced, eq⟩⟩
  · have different : Idempotency.key key ≠ Idempotency.key stage.key := by
      intro keys
      exact same (Idempotency.key_injective keys).symm
    refine ⟨⟨?_, ?_⟩, (key_step settings world stage).imp fun next eq other => ?_⟩
    · exact (entries_step_of_ne settings world stage different).trans live.found
    · rw [now_step settings world stage]
      exact live.unexpired
    · exact absurd (eq.symm.trans other) same

/-- The payment is in the book, and it is left to be announced or remembered. -/
inductive IntakeStage.Accepted (record : PaymentRecord) : IntakeStage → Prop where
  | announce (message : OutboundMessage) : Accepted record (.announce record message)
  | remember : Accepted record (.remember record)

namespace Intake

variable (settings : IntakeSettings) (world : World) {stage : IntakeStage}

theorem accepted_of_outcome (record : PaymentRecord) (message : OutboundMessage)
    {outcome : Except PaymentError InsertOutcome}
    (stored : outcome = .ok .inserted ∨ outcome = .ok .duplicate) :
    (ofOutcome settings record message outcome).AtStage (IntakeStage.Accepted record) := by
  have next : ofOutcome settings record message outcome = afterStore settings record message := by
    rcases stored with rfl | rfl <;> rfl
  rw [next, afterStore]
  cases settings.dispatch with
  | outbox => exact .remember
  | direct => exact .announce message

variable {record : PaymentRecord}

theorem accepted_step (accepted : stage.Accepted record) :
    (step settings world stage).1.AtStage (IntakeStage.Accepted record) := by
  have taken := stepCase settings world stage
  generalize step settings world stage = result at taken ⊢
  rcases result with ⟨call, after⟩
  dsimp only at taken ⊢
  cases taken with
  | silent => exact accepted
  | published _ message =>
      cases accepted
      exact .remember
  | unreadable _ | recalled _ _ _ _ _ | unpublished _ _ | unremembered _ | remembered _ =>
      exact trivial
  | missed _ _ _ | stored _ _ _ _ _ => cases accepted

/-- Only the step that remembers the receipt of an accepted payment answers with one. -/
theorem eq_remember_of_answered {settings : IntakeSettings} {world : World} {receipt : Receipt}
    (accepted : stage.Accepted record)
    (answered : (step settings world stage).1 = .answered (.ok receipt)) :
    stage = .remember record ∧ world.faults.cacheSilent = false := by
  cases accepted with
  | announce message =>
      rw [step] at answered
      split at answered <;> cases answered
  | remember =>
      refine ⟨rfl, ?_⟩
      by_cases silent : world.faults.cacheSilent = true
      · rw [step, if_pos silent] at answered
        cases answered
      · simpa using silent

end Intake

structure Teller where
  world : World
  /-- The request that was taken last, and how far it has come. -/
  serving : Option Handling

inductive TellerEvent where
  /-- A request is made, and taken unless another one is being served. -/
  | ask (traced : TracedRequest)
  /-- The request that is being served takes its next step. -/
  | step
  | meanwhile (traffic : Traffic)

namespace Teller

def opened (world : World) : Teller where
  world := world
  serving := none

def apply (settings : IntakeSettings) (teller : Teller) : TellerEvent → Teller
  | .ask traced =>
      match teller.serving with
      | some ⟨_, .running _⟩ => teller
      | some ⟨_, .answered _⟩ | none =>
          { teller with serving := some ⟨traced, Intake.begin traced⟩ }
  | .step =>
      match teller.serving with
      | some ⟨traced, .running stage⟩ =>
          let (call, world) := Intake.step settings teller.world stage
          { world := world
            serving := some ⟨traced, call⟩ }
      | some ⟨_, .answered _⟩ | none => teller
  | .meanwhile traffic => { teller with world := teller.world.undergo traffic }

def after (settings : IntakeSettings) (teller : Teller) (events : List TellerEvent) : Teller :=
  events.foldl (apply settings) teller

variable {settings : IntakeSettings} {teller : Teller}

theorem after_concat (events : List TellerEvent) (event : TellerEvent) :
    teller.after settings (events ++ [event]) =
      (teller.after settings events).apply settings event := by
  rw [after, List.foldl_append]
  rfl

inductive EventCase (settings : IntakeSettings) (teller : Teller) : Teller → Prop where
  | idle : EventCase settings teller teller
  | taken (traced : TracedRequest) :
      (∀ busy stage, teller.serving ≠ some ⟨busy, .running stage⟩) →
      EventCase settings teller { teller with serving := some ⟨traced, Intake.begin traced⟩ }
  | stepped (traced : TracedRequest) (stage : IntakeStage) :
      teller.serving = some ⟨traced, .running stage⟩ →
      EventCase settings teller
        { world := (Intake.step settings teller.world stage).2
          serving := some ⟨traced, (Intake.step settings teller.world stage).1⟩ }
  | passed (traffic : Traffic) :
      EventCase settings teller { teller with world := teller.world.undergo traffic }

theorem eventCase (settings : IntakeSettings) (teller : Teller) (event : TellerEvent) :
    EventCase settings teller (teller.apply settings event) := by
  cases event with
  | meanwhile traffic => exact .passed traffic
  | ask traced =>
      rw [apply]
      split
      · exact .idle
      · rename_i answered
        exact .taken traced (by simp [answered])
      · rename_i unasked
        exact .taken traced (by simp [unasked])
  | step =>
      rw [apply]
      split
      · rename_i traced stage serving
        exact .stepped traced stage serving
      · exact .idle
      · exact .idle

theorem now_apply (event : TellerEvent) :
    teller.world.now ≤ (teller.apply settings event).world.now := by
  have happened := eventCase settings teller event
  generalize teller.apply settings event = next at happened ⊢
  cases happened with
  | idle | taken _ _ => exact Nat.le_refl _
  | stepped _ stage _ => exact (Intake.now_step settings teller.world stage).ge
  | passed traffic => exact teller.world.now_undergo traffic

theorem now_after (events : List TellerEvent) :
    teller.world.now ≤ (teller.after settings events).world.now := by
  induction events generalizing teller with
  | nil => exact Nat.le_refl _
  | cons event rest inductionHypothesis =>
      exact (now_apply event).trans inductionHypothesis

/-- Whoever is being served is served with the key of the request, which is not blank. -/
def Named (teller : Teller) : Prop :=
  ∀ traced call, teller.serving = some ⟨traced, call⟩ →
    call.AtStage fun stage => traced.key ≠ "" ∧ stage.key = traced.key

theorem Named.apply (named : teller.Named) (event : TellerEvent) :
    (teller.apply settings event).Named := by
  have happened := eventCase settings teller event
  generalize teller.apply settings event = next at happened ⊢
  intro traced call serving
  cases happened with
  | idle | passed _ => exact named traced call serving
  | taken other _ =>
      cases serving
      unfold Intake.begin
      split
      · exact trivial
      · rename_i present
        exact ⟨present, rfl⟩
  | stepped other stage before =>
      cases serving
      obtain ⟨present, same⟩ := named traced _ before
      exact (Intake.key_step settings teller.world stage).imp fun next eq =>
        ⟨present, eq.trans same⟩

theorem Named.after (named : teller.Named) (events : List TellerEvent) :
    (teller.after settings events).Named := by
  induction events generalizing teller with
  | nil => exact named
  | cons event rest inductionHypothesis => exact inductionHypothesis (named.apply event)

theorem named_opened (world : World) : (opened world).Named := by
  intro traced call serving
  cases serving

/-- The receipt of a key is in the cache, and no request with this key is about to write. -/
structure Keeps (teller : Teller) (key : String) (entry : StoreEntry) : Prop where
  live : teller.world.store.Live teller.world.now (Idempotency.key key) entry
  spares : ∀ traced call, teller.serving = some ⟨traced, call⟩ →
    call.AtStage (IntakeStage.Spares key)

theorem Keeps.apply {key : String} {entry : StoreEntry} {receipt : Receipt}
    (keeps : teller.Keeps key entry) (legible : Receipt.decode entry.value = .ok receipt)
    (event : TellerEvent)
    (unexpired : (teller.apply settings event).world.now < entry.expires) :
    (teller.apply settings event).Keeps key entry := by
  have happened := eventCase settings teller event
  generalize teller.apply settings event = next at happened unexpired ⊢
  cases happened with
  | idle => exact keeps
  | passed traffic => exact ⟨World.live_undergo keeps.live unexpired, keeps.spares⟩
  | taken other _ =>
      refine ⟨keeps.live, fun traced call serving => ?_⟩
      cases serving
      unfold Intake.begin
      split
      · exact trivial
      · exact fun _ => ⟨_, rfl⟩
  | stepped traced stage before =>
      obtain ⟨live, spares⟩ := Intake.live_step settings keeps.live legible
        (keeps.spares traced _ before)
      refine ⟨live, fun other call serving => ?_⟩
      cases serving
      exact spares

theorem Keeps.after {key : String} {entry : StoreEntry} {receipt : Receipt}
    (keeps : teller.Keeps key entry) (legible : Receipt.decode entry.value = .ok receipt)
    (events : List TellerEvent)
    (unexpired : (teller.after settings events).world.now < entry.expires) :
    (teller.after settings events).Keeps key entry := by
  induction events generalizing teller with
  | nil => exact keeps
  | cons event rest inductionHypothesis =>
      refine inductionHypothesis (keeps.apply legible event ?_) unexpired
      exact (now_after rest).trans_lt unexpired

/-- The payment of the request is being inserted, or found to be in the book already. -/
def Stores (settings : IntakeSettings) (teller : Teller) (traced : TracedRequest)
    (record : PaymentRecord) : Prop :=
  ∃ message, teller.serving = some ⟨traced, .running (.store record message)⟩ ∧
    let outcome :=
      (teller.world.insertPayment record (Intake.storedMessage settings message)).1
    outcome = .ok .inserted ∨ outcome = .ok .duplicate

theorem Stores.accepted {traced : TracedRequest} {record : PaymentRecord}
    (stores : teller.Stores settings traced record) {stage : IntakeStage}
    (serving : (teller.apply settings .step).serving = some ⟨traced, .running stage⟩) :
    stage.Accepted record := by
  obtain ⟨message, storing, outcome⟩ := stores
  have accepted := Intake.accepted_of_outcome settings record message outcome
  simp only [apply, storing, Intake.step, Option.some.injEq, Handling.mk.injEq, true_and]
    at serving
  rw [serving] at accepted
  exact accepted

/-- A payment that was stored stays accepted for as long as its request is being served. -/
theorem accepted_after {traced : TracedRequest} {record : PaymentRecord}
    {rest : List TellerEvent}
    (accepts : ∀ stage, teller.serving = some ⟨traced, .running stage⟩ →
      stage.Accepted record)
    (serves : ∀ past, past <+: rest →
      ∃ stage, (teller.after settings past).serving = some ⟨traced, .running stage⟩) :
    ∃ stage, (teller.after settings rest).serving = some ⟨traced, .running stage⟩ ∧
      stage.Accepted record := by
  induction rest using List.reverseRecOn with
  | nil =>
      obtain ⟨stage, serving⟩ := serves [] (List.prefix_refl _)
      exact ⟨stage, serving, accepts stage serving⟩
  | append_singleton rest event inductionHypothesis =>
      obtain ⟨stage, serving, accepted⟩ := inductionHypothesis fun past isPrefix =>
        serves past (isPrefix.trans (List.prefix_append _ _))
      obtain ⟨next, nextServing⟩ := serves _ (List.prefix_refl _)
      refine ⟨next, nextServing, ?_⟩
      rw [after_concat] at nextServing
      have happened := eventCase settings (teller.after settings rest) event
      generalize (teller.after settings rest).apply settings event = reached
        at happened nextServing
      cases happened with
      | idle | passed _ =>
          cases serving.symm.trans nextServing
          exact accepted
      | taken _ free => exact absurd serving (free traced stage)
      | stepped other before busy =>
          cases serving.symm.trans busy
          have kept := Intake.accepted_step settings (teller.after settings rest).world accepted
          simp only [Option.some.injEq, Handling.mk.injEq, true_and] at nextServing
          rw [nextServing] at kept
          exact kept

theorem Named.key_eq (named : teller.Named) {traced : TracedRequest} {record : PaymentRecord}
    (serving : teller.serving = some ⟨traced, .running (.remember record)⟩) :
    traced.key ≠ "" ∧ record.idempotencyKey = traced.key :=
  named traced _ serving

theorem apply_step_of_remember {traced : TracedRequest} {record : PaymentRecord}
    (serving : teller.serving = some ⟨traced, .running (.remember record)⟩)
    (audible : teller.world.faults.cacheSilent = false)
    (writable : teller.world.faults.cacheWrite = none) :
    teller.apply settings .step =
      { world :=
          { teller.world with
            store := teller.world.store.set (Idempotency.key record.idempotencyKey)
              (Receipt.pending record.id).encode settings.lifetime teller.world.now }
        serving := some ⟨traced, .answered (.ok (.pending record.id))⟩ } := by
  simp only [apply, serving, Intake.step, audible, World.rememberReceipt, World.cacheSet,
    writable]
  rfl

/-- A request that is answered with a receipt, having been accepted, is remembered with it. -/
theorem remember_of_answered {traced : TracedRequest} {record : PaymentRecord}
    {stage : IntakeStage} {receipt : Receipt}
    (serving : teller.serving = some ⟨traced, .running stage⟩)
    (accepted : stage.Accepted record)
    (answered : (teller.apply settings .step).serving = some ⟨traced, .answered (.ok receipt)⟩) :
    stage = .remember record ∧ teller.world.faults.cacheSilent = false := by
  simp only [apply, serving, Option.some.injEq, Handling.mk.injEq, true_and] at answered
  exact Intake.eq_remember_of_answered accepted answered

/--
A request whose payment is inserted, or found in the book, and that is served on until it is
answered with a receipt, is remembered with this receipt from then on.  Every request with its key
is answered with the receipt until it expires, and changes nothing, whatever else it says and
whatever has become of the book, the broker and the ledger, of other requests and of cached
balances in the meantime.
-/
theorem receipts_are_replayed (settings : IntakeSettings) (start : World)
    (events rest : List TellerEvent) (first : TracedRequest) (record : PaymentRecord)
    (receipt : Receipt) :
    let storing := (opened start).after settings events
    let stored := storing.apply settings .step
    let answering := stored.after settings rest
    let answered := answering.apply settings .step
    storing.Stores settings first record →
      (∀ past, past <+: rest →
        ∃ stage, (stored.after settings past).serving = some ⟨first, .running stage⟩) →
      answered.serving = some ⟨first, .answered (.ok receipt)⟩ →
      answering.world.faults.cacheWrite = none →
      receipt = ⟨record.id, .known .pending, "Payment initiated"⟩ ∧
        answered.world.store.entries.get? ("idempotency:" ++ first.key) =
          some ⟨receipt.encode, answering.world.now + settings.lifetime⟩ ∧
        ∀ (later : List TellerEvent) (retry : TracedRequest) (other : IntakeSettings),
          let world := (answered.after settings later).world
          retry.key = first.key → world.faults.cacheSilent = false →
            world.faults.cacheRead = none →
            world.now < answering.world.now + settings.lifetime →
            world.initiatePayment other retry = (.answered (.ok receipt), world) := by
  intro storing stored answering answered stores serves told writable
  obtain ⟨stage, serving, accepted⟩ := accepted_after (fun _ => stores.accepted) serves
  obtain ⟨rfl, audible⟩ := remember_of_answered serving accepted told
  have named : answering.Named := (((named_opened start).after events).apply .step).after rest
  obtain ⟨present, key_eq⟩ := named.key_eq serving
  have stepped : answered = _ := apply_step_of_remember serving audible writable
  have receipt_eq : receipt = .pending record.id := by
    rw [stepped] at told
    cases told
    rfl
  subst receipt_eq
  have held : answered.world.store.entries.get? (Idempotency.key first.key) =
      some ⟨(Receipt.pending record.id).encode, answering.world.now + settings.lifetime⟩ := by
    rw [stepped, Store.entries_set, key_eq, if_pos rfl]
  refine ⟨rfl, held, ?_⟩
  intro later retry other world sameKey answers readable unexpired
  have passed : answered.world.now ≤ world.now := now_after later
  have keeps : answered.Keeps first.key
      ⟨(Receipt.pending record.id).encode, answering.world.now + settings.lifetime⟩ := by
    refine ⟨⟨held, passed.trans_lt unexpired⟩, fun traced call serving => ?_⟩
    rw [told] at serving
    cases serving
    exact trivial
  have legible := Receipt.decode_encode (.pending record.id)
  have kept := keeps.after legible later unexpired
  have hits : world.Hits retry (.pending record.id) := by
    refine ⟨sameKey ▸ present, answers, ?_⟩
    rw [World.recallReceipt_eq_some_iff, sameKey]
    exact ⟨readable, _, kept.live, legible⟩
  exact hits.initiatePayment other

def dailyIntake (dispatch : Dispatch) : IntakeSettings where
  dispatch := dispatch
  topic := "payments"
  lifetime := Idempotency.defaultLifetime

def askingForRent : List TellerEvent := [.ask (Desk.payRent "rent" "may"), .step]

/-- The rent has been stored and remembered, and is asked for once more with another key. -/
def askingAgain : List TellerEvent :=
  askingForRent ++ [.step, .step, .ask (Desk.payRent "rent" "june"), .step]

def rentRecord (key : String) : PaymentRecord where
  id := "rent"
  source := "33333333-3333-3333-3333-333333333333"
  destination := "44444444-4444-4444-4444-444444444444"
  amount := (Desk.payRent "rent" key).request.amount
  currency := "EUR"
  status := "PENDING"
  idempotencyKey := key
  version := 1
  created := .sample
  updated := .sample

def rentMessage : OutboundMessage :=
  .settlement "payments"
    { id := "rent"
      source := "33333333-3333-3333-3333-333333333333"
      destination := "44444444-4444-4444-4444-444444444444"
      amount := (rentRecord "").amount
      currency := "EUR"
      timestamp := .sample }
    ((Desk.payRent "rent" "").context.child (Desk.payRent "rent" "").span)

/-- All the stores but the cache are lost, and a day is over but for a nanosecond. -/
def almostADay : List TellerEvent :=
  let lost := World.disconnected 1
  [.meanwhile (.replace lost.ledger lost.book lost.broker),
    .meanwhile (.elapse (24 * 60 * 60 * 10 ^ 9 - 1) .sample), .meanwhile .purge]

/--
A request that names no payment gets the receipt of the rent, from the cache alone: with the key
that the rent was published with, and with one that it was only asked for again with.
-/
theorem receipts_are_replayed_almostADay :
    let published := (opened (.ofPartitions 1)).after (dailyIntake .direct)
      (askingForRent ++ [.step, .step, .step])
    let repeated := (opened (.ofPartitions 1)).after (dailyIntake .outbox)
      (askingAgain ++ [.step, .step])
    let first := (published.after (dailyIntake .direct) almostADay).world
    let second := (repeated.after (dailyIntake .outbox) almostADay).world
    (Desk.payRent "" " may ").request.validate = .error .missingId ∧
      first.book.online = false ∧ first.broker.outage = some .storage ∧
      second.book.online = false ∧ second.broker.outage = some .storage ∧
      first.initiatePayment (dailyIntake .direct) (Desk.payRent "" " may ") =
        (.answered (.ok (.pending "rent")), first) ∧
      second.initiatePayment (dailyIntake .outbox) (Desk.payRent "" " june ") =
        (.answered (.ok (.pending "rent")), second) := by
  intro published repeated first second
  have lost : (Desk.payRent "" " may ").request.validate = .error .missingId ∧
      first.book.online = false ∧ first.broker.outage = some .storage ∧
      second.book.online = false ∧ second.broker.outage = some .storage := by
    decide +kernel
  obtain ⟨invalid, firstBook, firstBroker, secondBook, secondBroker⟩ := lost
  refine ⟨invalid, firstBook, firstBroker, secondBook, secondBroker, ?_, ?_⟩
  · let storing := (opened (.ofPartitions 1)).after (dailyIntake .direct) askingForRent
    let stored := storing.apply (dailyIntake .direct) .step
    let answering := stored.after (dailyIntake .direct) [.step]
    have run :
        storing.serving = some
            ⟨Desk.payRent "rent" "may", .running (.store (rentRecord "may") rentMessage)⟩ ∧
          (storing.world.insertPayment (rentRecord "may") none).1 = .ok .inserted ∧
          stored.serving = some
            ⟨Desk.payRent "rent" "may", .running (.announce (rentRecord "may") rentMessage)⟩ ∧
          answering.serving =
            some ⟨Desk.payRent "rent" "may", .running (.remember (rentRecord "may"))⟩ := by
      decide +kernel
    obtain ⟨serving, inserted, announcing, remembering⟩ := run
    have serves : ∀ past, past <+: [.step] → ∃ stage,
        (stored.after (dailyIntake .direct) past).serving =
          some ⟨Desk.payRent "rent" "may", .running stage⟩ := by
      intro past isPrefix
      rcases List.prefix_cons_iff.mp isPrefix with rfl | ⟨none, rfl, nothing⟩
      · exact ⟨_, announcing⟩
      · rw [List.prefix_nil.mp nothing]
        exact ⟨_, remembering⟩
    obtain ⟨_, _, replayed⟩ := receipts_are_replayed (dailyIntake .direct) (.ofPartitions 1)
      askingForRent [.step] (Desk.payRent "rent" "may") (rentRecord "may") (.pending "rent")
      ⟨rentMessage, serving, .inl inserted⟩ serves (by decide +kernel) (by decide +kernel)
    exact replayed almostADay (Desk.payRent "" " may ") (dailyIntake .direct)
      (by decide +kernel) (by decide +kernel) (by decide +kernel) (by decide +kernel)
  · let storing := (opened (.ofPartitions 1)).after (dailyIntake .outbox) askingAgain
    let stored := storing.apply (dailyIntake .outbox) .step
    have run :
        storing.serving = some
            ⟨Desk.payRent "rent" "june", .running (.store (rentRecord "june") rentMessage)⟩ ∧
          (storing.world.insertPayment (rentRecord "june") (some rentMessage)).1 =
            .ok .duplicate ∧
          stored.serving =
            some ⟨Desk.payRent "rent" "june", .running (.remember (rentRecord "june"))⟩ := by
      decide +kernel
    obtain ⟨serving, duplicate, remembering⟩ := run
    have serves : ∀ past, past <+: [] → ∃ stage,
        (stored.after (dailyIntake .outbox) past).serving =
          some ⟨Desk.payRent "rent" "june", .running stage⟩ := by
      intro past isPrefix
      rw [List.prefix_nil.mp isPrefix]
      exact ⟨_, remembering⟩
    obtain ⟨_, _, replayed⟩ := receipts_are_replayed (dailyIntake .outbox) (.ofPartitions 1)
      askingAgain [] (Desk.payRent "rent" "june") (rentRecord "june") (.pending "rent")
      ⟨rentMessage, serving, .inr duplicate⟩ serves (by decide +kernel) (by decide +kernel)
    exact replayed almostADay (Desk.payRent "" " june ") (dailyIntake .outbox)
      (by decide +kernel) (by decide +kernel) (by decide +kernel) (by decide +kernel)

end Teller

end Clearing
