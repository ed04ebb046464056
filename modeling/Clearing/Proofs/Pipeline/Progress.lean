import Clearing.Proofs.Payment.Handlings
import Clearing.Proofs.Pipeline.Publishing
import Clearing.Proofs.Pipeline.Settling
import Clearing.Proofs.World.Order
/-!
Nothing is lost on the way from a request to the record of its fate.  A request
stores its payment along with the message that announces it, the relay marks no
entry before its message stands in the topic, and a member commits no message
before its payment has been settled.
-/

namespace Clearing

namespace World

variable {before after world : World} {topic : String}

theorem Announced.of_accumulates (accumulates : before.Accumulates after)
    {payload : Bytes} (announced : before.Announced payload) :
    after.Announced payload := by
  obtain ⟨order, asked, record, found, covers⟩ := announced
  obtain ⟨later, laterFound, continues⟩ := accumulates.records order.id record found
  exact ⟨order, asked, later, laterFound, continues.covers covers⟩

def Awaits (world : World) (entry : OutboxEntry) : Prop :=
  ∃ held ∈ world.book.outbox.entries, held.id = entry.id ∧ held.message = entry.message

theorem Awaits.of_accumulates (accumulates : before.Accumulates after)
    {entry : OutboxEntry} (awaits : before.Awaits entry) : after.Awaits entry := by
  obtain ⟨held, member, sameId, sameMessage⟩ := awaits
  obtain ⟨later, laterMember, laterId, laterMessage⟩ := accumulates.outbox held member
  exact ⟨later, laterMember, laterId.trans sameId, laterMessage.trans sameMessage⟩

theorem logged_append (world : World) (message : OutboundMessage) :
    { world with broker := (world.broker.append message).2 }.Logged message :=
  ⟨message.entry, world.broker.mem_log_append message, rfl⟩

/-- A known payment is settled as soon as its fate is recorded. -/
theorem isSettled_updateStatus (online : world.book.online = true)
    {id : String} {record : PaymentRecord}
    (found : world.book.records.get? id = some record) {held : PaymentStatus}
    (named : record.status = held.name) {status : PaymentStatus}
    (terminal : status.isTerminal = true) :
    ∃ later, (world.updateStatus id status).2.book.records.get? id = some later ∧
      later.IsSettled := by
  obtain ⟨answer, book, updated, after⟩ := world.exists_updateCase id status
  rw [after]
  cases updated with
  | offline offline =>
      rw [online] at offline
      cases offline
  | missing _ missing =>
      rw [found] at missing
      cases missing
  | corrupt other error _ otherFound unknown =>
      rw [found] at otherFound
      cases otherFound
      unfold PaymentStatus.ofStored at unknown
      rw [named, PaymentStatus.ofName?_name] at unknown
      cases unknown
  | settled other error _ otherFound settled => exact ⟨other, otherFound, settled⟩
  | unchanged other _ otherFound pending idle =>
      rw [idle] at terminal
      cases terminal
  | moved other _ otherFound pending moves =>
      refine ⟨_, (Table.get?_insert _ _ _ _).trans (if_pos rfl), ?_⟩
      exact PaymentRecord.isSettled_iff.mpr ⟨status, terminal, rfl⟩

end World

def IntakeStage.Orderly (topic : String) : IntakeStage → Prop
  | .store record message => message.Announces topic record.id
  | .recall _ | .announce _ _ | .remember _ => True

def RelayStage.Orderly (world : World) : RelayStage → Prop
  | .load => True
  | .publish entry rest _ => ∀ pending ∈ entry :: rest, world.Awaits pending
  | .mark id rest _ =>
      (∃ held ∈ world.book.outbox.entries, held.id = id ∧ world.Logged held.message) ∧
        ∀ pending ∈ rest, world.Awaits pending

/-- What is left to do of a delivery is about the payment of its payload. -/
def DeliveryStage.Settles (payload : Bytes) : DeliveryStage → Prop
  | .receive received => received = payload
  | .dropSource order | .dropDestination order =>
      ∃ event, SettlementEvent.decode payload = .ok event ∧ event.id = order.id
  | .record id status _ =>
      status.isTerminal = true ∧
        ∃ event, SettlementEvent.decode payload = .ok event ∧ event.id = id

/-- A delivery is on its way to settle a payment, or has done so. -/
inductive Delivery.Settles (world : World) (payload : Bytes) : Delivery → Prop where
  | running (stage : DeliveryStage) :
      stage.Settles payload → Settles world payload (.running stage)
  | answered (disposition : Disposition) :
      world.Resolved payload → Settles world payload (.answered disposition)

theorem RelayStage.Orderly.of_accumulates {before after : World} {stage : RelayStage}
    (orderly : stage.Orderly before) (accumulates : before.Accumulates after) :
    stage.Orderly after := by
  cases stage with
  | load => exact trivial
  | publish entry rest relayed =>
      exact fun pending member => (orderly pending member).of_accumulates accumulates
  | mark id rest relayed =>
      obtain ⟨⟨held, member, same, logged⟩, awaits⟩ := orderly
      obtain ⟨later, laterMember, laterId, laterMessage⟩ := accumulates.outbox held member
      refine ⟨⟨later, laterMember, laterId.trans same, ?_⟩, fun pending pendingMember =>
        (awaits pending pendingMember).of_accumulates accumulates⟩
      rw [laterMessage]
      exact logged.of_accumulates accumulates

theorem Delivery.Settles.of_accumulates {before after : World} {payload : Bytes}
    {delivery : Delivery} (settles : delivery.Settles before payload)
    (accumulates : before.Accumulates after) : delivery.Settles after payload := by
  cases settles with
  | running stage settles => exact .running stage settles
  | answered disposition resolved =>
      exact .answered disposition (resolved.of_accumulates accumulates)

namespace Intake

variable {settings : IntakeSettings} {world : World}

theorem orderly_prepare {moment : Timestamp}
    (inRange : Date.YearInRange moment.date.year) (traced : TracedRequest) :
    (prepare settings moment traced).AtStage (IntakeStage.Orderly settings.topic) := by
  rcases prepare_cases settings moment traced with
    ⟨error, refused⟩ | ⟨payment, valid, prepared⟩
  · rw [refused]
    exact trivial
  · rw [prepared]
    exact ⟨rfl, _, SettlementEvent.decode_ofPayment inRange, rfl⟩

theorem orderly_ofOutcome (outbox : settings.dispatch = .outbox) (record : PaymentRecord)
    (message : OutboundMessage) (outcome : Except PaymentError InsertOutcome) :
    (ofOutcome settings record message outcome).AtStage
      (IntakeStage.Orderly settings.topic) := by
  have stored : (afterStore settings record message).AtStage
      (IntakeStage.Orderly settings.topic) := by
    unfold afterStore
    rw [outbox]
    exact trivial
  rcases outcome with error | outcome
  · cases error <;> exact trivial
  · cases outcome with
    | inserted | duplicate => exact stored
    | keyTaken owner => exact trivial

/-- An intake with an outbox stores no payment without its announcement. -/
theorem orderly_step (outbox : settings.dispatch = .outbox)
    (inRange : Date.YearInRange world.moment.date.year)
    (orderly : world.Orderly settings.topic) {stage : IntakeStage}
    (ready : stage.Orderly settings.topic) :
    let result := step settings world stage
    world.Accumulates result.2 ∧ result.2.Orderly settings.topic ∧
      result.1.AtStage (IntakeStage.Orderly settings.topic) := by
  intro result
  have taken := stepCase settings world stage
  change StepCase settings world stage result.1 result.2 at taken
  generalize result = outcome at taken
  rcases outcome with ⟨call, after⟩
  dsimp only at taken ⊢
  have unchanged : world.Accumulates world := .refl world
  cases taken with
  | silent => exact ⟨unchanged, orderly, ready⟩
  | unreadable traced => exact ⟨unchanged, orderly, trivial⟩
  | recalled traced entry receipt present decoded => exact ⟨unchanged, orderly, trivial⟩
  | missed traced store kept =>
      exact ⟨world.accumulates_withStore store, orderly.withStore store,
        orderly_prepare inRange traced⟩
  | stored record message outcome book inserted =>
      refine ⟨world.accumulates_insert inserted, ?_,
        orderly_ofOutcome outbox record message outcome⟩
      unfold storedMessage at inserted
      rw [outbox] at inserted
      cases inserted with
      | offline _ | conflict _ _ _ _ | duplicate _ _ _ _ | keyTaken _ _ _ _ =>
          exact orderly
      | inserted _ fresh _ => exact orderly.store fresh ready
  | unpublished record message => exact ⟨unchanged, orderly, trivial⟩
  | published record message =>
      exact ⟨world.accumulates_append message, orderly.append message, trivial⟩
  | unremembered record => exact ⟨unchanged, orderly, trivial⟩
  | remembered record =>
      exact ⟨world.accumulates_withStore _, orderly.withStore _, trivial⟩

end Intake

namespace RelayPass

variable {topic : String} {world : World}

theorem orderly_next (relayed : Nat) {entries : List OutboxEntry}
    (awaits : ∀ pending ∈ entries, world.Awaits pending) :
    (next relayed entries).AtStage (RelayStage.Orderly world) := by
  cases entries with
  | nil => exact trivial
  | cons entry rest => exact awaits

/-- The relay marks an entry only after the broker has taken its message. -/
theorem orderly_step (orderly : world.Orderly topic) (batch : Nat) {stage : RelayStage}
    (ready : stage.Orderly world) :
    let result := step batch world stage
    world.Accumulates result.2 ∧ result.2.Orderly topic ∧
      result.1.AtStage (RelayStage.Orderly result.2) := by
  have taken := stepCase batch world stage
  generalize step batch world stage = result at taken ⊢
  rcases result with ⟨call, after⟩
  dsimp only at taken ⊢
  have unchanged : world.Accumulates world := .refl world
  cases taken with
  | unread error => exact ⟨unchanged, orderly, trivial⟩
  | loaded =>
      have accumulates : world.Accumulates (world.pollOutbox batch).2 :=
        .of_eq rfl rfl rfl rfl
      refine ⟨accumulates, ?_, orderly_next 0 fun pending member => ?_⟩
      · exact orderly.of_accumulates accumulates rfl rfl (fun _ => id) rfl rfl
      · have held := (List.mem_filter.mp (List.mem_of_mem_take member)).1
        exact ⟨pending, held, rfl, rfl⟩
  | refused entry rest relayed error => exact ⟨unchanged, orderly, trivial⟩
  | published entry rest relayed =>
      have accumulates := world.accumulates_append entry.message
      refine ⟨accumulates, orderly.append entry.message, ?_, ?_⟩
      · obtain ⟨held, member, sameId, sameMessage⟩ := ready entry List.mem_cons_self
        refine ⟨held, member, sameId, ?_⟩
        rw [sameMessage]
        exact world.logged_append entry.message
      · intro pending member
        exact (ready pending (List.mem_cons_of_mem _ member)).of_accumulates accumulates
  | unmarked id rest relayed error => exact ⟨unchanged, orderly, trivial⟩
  | marked id rest relayed =>
      obtain ⟨⟨held, member, rfl, logged⟩, awaits⟩ := ready
      have accumulates := world.accumulates_markPublished held.id
      refine ⟨accumulates, orderly.markPublished member logged, ?_⟩
      exact orderly_next _ fun pending pendingMember =>
        (awaits pending pendingMember).of_accumulates accumulates

end RelayPass

namespace Delivery

variable {topic : String} {world : World} {payload : Bytes}

theorem settles_conclude {event : SettlementEvent}
    (decoded : SettlementEvent.decode payload = .ok event) {id : String}
    (same : event.id = id) (disposition : Disposition) {status : PaymentStatus}
    (resolves : disposition.resolvedStatus = some status)
    (terminal : status.isTerminal = true) :
    (conclude id disposition).Settles world payload := by
  unfold conclude
  rw [resolves]
  exact .running _ ⟨terminal, event, decoded, same⟩

theorem settles_ofResult {event : SettlementEvent}
    (decoded : SettlementEvent.decode payload = .ok event) {order : TransferOrder}
    (same : event.id = order.id) (shape : order.check = .ok ()) {ledger after : Ledger}
    (online : ledger.online = true) {answer : Except LedgerError TransferOutcome}
    (asked : ledger.transfer order = (answer, after)) :
    (ofResult order answer).Settles world payload := by
  have rejected {error : LedgerError} (final : error.isTransient = false) :
      (ofResult order (.error error)).Settles world payload := by
    rw [ofResult, if_neg (by simp [final])]
    exact settles_conclude decoded same (.rejected error.code) rfl rfl
  cases Ledger.transferCase asked with
  | malformed error malformed =>
      rw [shape] at malformed
      cases malformed
  | offline _ offline =>
      rw [online] at offline
      cases offline
  | decided decision _ _ _ =>
      cases decision with
      | applied => exact settles_conclude decoded same .alreadySettled rfl rfl
      | rejected code => exact rejected rfl
  | refused error _ _ _ refusal _ =>
      exact rejected (LedgerError.isTransient_of_isRefusal refusal)
  | applied movement _ _ _ _ _ => exact .running _ ⟨event, decoded, same⟩

theorem orderly_dropBalance (orderly : world.Orderly topic) (account : String) :
    world.Accumulates (world.dropBalance account).2 ∧
      (world.dropBalance account).2.Orderly topic := by
  unfold World.dropBalance World.cacheDelete
  cases world.faults.cacheDelete with
  | some error => exact ⟨.refl world, orderly⟩
  | none => exact ⟨world.accumulates_withStore _, orderly.withStore _⟩

/-- A delivery is answered only after its payment has been settled. -/
theorem orderly_step {history : List LedgerEvent} (consistent : world.Consistent history)
    (orderly : world.Orderly topic) (announced : world.Announced payload)
    {stage : DeliveryStage} (settles : stage.Settles payload) :
    world.Accumulates (step .book world stage).2 ∧
      (step .book world stage).2.Orderly topic ∧
      (step .book world stage).1.Settles (step .book world stage).2 payload := by
  have unchanged : world.Accumulates world := .refl world
  obtain ⟨order, ⟨event, decoded, ordered, shape⟩, record, found, covers⟩ := announced
  have named := SettlementEvent.id_of_order?_eq_some ordered
  cases stage with
  | receive received =>
      have same : received = payload := settles
      subst same
      rw [step_receive .book world decoded ordered]
      by_cases silent : world.faults.ledgerSilent = true
      · rw [if_pos silent]
        exact ⟨unchanged, orderly, .running _ settles⟩
      · rw [if_neg silent]
        rcases asked : world.ledger.transfer order with ⟨answer, after⟩
        have accumulates : world.Accumulates { world with ledger := after } :=
          .of_eq rfl rfl rfl rfl
        refine ⟨accumulates, ?_, ?_⟩
        · exact orderly.of_accumulates accumulates (Ledger.online_transfer asked) rfl
            (fun _ => id) rfl rfl
        · exact settles_ofResult decoded named.symm shape orderly.ledgerOnline asked
  | dropSource other =>
      rw [step]
      by_cases silent : world.faults.cacheSilent = true
      · rw [if_pos silent]
        exact ⟨unchanged, orderly, .running _ settles⟩
      · rw [if_neg silent]
        obtain ⟨accumulates, after⟩ := orderly_dropBalance orderly other.source
        exact ⟨accumulates, after, .running _ settles⟩
  | dropDestination other =>
      rw [step]
      by_cases silent : world.faults.cacheSilent = true
      · rw [if_pos silent]
        exact ⟨unchanged, orderly, .running _ settles⟩
      · rw [if_neg silent]
        obtain ⟨accumulates, after⟩ := orderly_dropBalance orderly other.destination
        obtain ⟨given, givenDecoded, same⟩ := settles
        exact ⟨accumulates, after, settles_conclude givenDecoded same .settled rfl rfl⟩
  | record id status disposition =>
      obtain ⟨terminal, given, givenDecoded, same⟩ := settles
      rw [decoded] at givenDecoded
      cases givenDecoded
      rw [named, same] at found
      obtain ⟨held, heldName, _⟩ := consistent.statuses id record found
      obtain ⟨later, laterFound, settled⟩ :=
        world.isSettled_updateStatus orderly.bookOnline found heldName terminal
      refine ⟨world.accumulates_updateStatus id status, orderly.updateStatus id status, ?_⟩
      exact .answered disposition ⟨event, later, decoded, same ▸ laterFound, settled⟩

end Delivery

namespace World

/-- Below every position of a consumer, everything has been settled. -/
def DoneAt (world : World) (topic : String) (positions : List Int) : Prop :=
  ∀ partition position, positions[partition]? = some position →
    world.DoneBelow ⟨topic, partition⟩ position

theorem DoneAt.of_accumulates {before after : World} {topic : String}
    {positions : List Int} (done : before.DoneAt topic positions)
    (accumulates : before.Accumulates after) : after.DoneAt topic positions :=
  fun partition position held => (done partition position held).of_accumulates accumulates

theorem DoneAt.set {world : World} {topic : String} {positions : List Int}
    (done : world.DoneAt topic positions) {partition : Nat} {offset : Int}
    (below : world.DoneBelow ⟨topic, partition⟩ offset) :
    world.DoneAt topic (positions.set partition offset) := by
  intro other position held
  rw [List.getElem?_set] at held
  split at held
  · rename_i same
    subst same
    split at held
    · cases held
      exact below
    · cases held
  · exact done other position held

/-- A consumer reads on where its group is done with everything. -/
theorem Orderly.doneAt_reading {world : World} {topic : String}
    (orderly : world.Orderly topic) {consumer : Consumer}
    (done : ∀ positions, consumer.positions = some positions →
      world.DoneAt consumer.topic positions) :
    world.DoneAt consumer.topic (consumer.reading world.broker) := by
  unfold Consumer.reading
  cases held : consumer.positions with
  | some positions => exact done positions held
  | none =>
      intro partition position found
      rw [Option.getD_none, Consumer.committedPositions, List.getElem?_map] at found
      obtain ⟨other, inRange, rfl⟩ := Option.map_eq_some_iff.mp found
      have same : other = partition := by
        obtain ⟨_, rfl⟩ := List.getElem?_eq_some_iff.mp inRange
        rw [List.getElem_range]
      subst same
      exact orderly.committed consumer.group ⟨consumer.topic, other⟩

end World

/-- What a member has in hand stands next in its partition. -/
inductive Member.Orderly (world : World) : Member → Prop where
  | idle (consumer : Consumer) (stats : SettlementStats) :
      (∀ positions, consumer.positions = some positions →
        world.DoneAt consumer.topic positions) →
      Orderly world ⟨consumer, stats, .idle⟩
  | delivering (consumer : Consumer) (stats : SettlementStats) (positions : List Int)
      (message : InboundMessage) (delivery : Delivery) :
      consumer.positions =
        some (positions.set message.partition (message.offset + 1)) →
      world.DoneAt consumer.topic positions →
      positions[message.partition]? = some message.offset →
      Consumer.Stands world.broker consumer.topic message →
      world.Announced message.payload →
      delivery.Settles world message.payload →
      Orderly world ⟨consumer, stats, .delivering message delivery⟩

theorem Consumer.Stands.of_accumulates {before after : World} {topic : String}
    {message : InboundMessage} (stands : Stands before.broker topic message)
    (accumulates : before.Accumulates after) : Stands after.broker topic message := by
  obtain ⟨topic_eq, nonneg, entry, present, same⟩ := stands
  refine ⟨topic_eq, nonneg, entry, ?_, same⟩
  obtain ⟨more, grown⟩ := accumulates.logs ⟨topic, message.partition⟩
  obtain ⟨inside, _⟩ := List.getElem?_eq_some_iff.mp present
  rw [← grown, List.getElem?_append_left inside]
  exact present

namespace Member

variable {topic : String} {world : World}

theorem Orderly.of_accumulates {before after : World} {member : Member}
    (orderly : member.Orderly before) (accumulates : before.Accumulates after) :
    member.Orderly after := by
  cases orderly with
  | idle consumer stats done =>
      exact .idle consumer stats fun positions held =>
        (done positions held).of_accumulates accumulates
  | delivering consumer stats positions message delivery reads done position stands
      announced settles =>
      exact .delivering consumer stats positions message delivery reads
        (done.of_accumulates accumulates) position (stands.of_accumulates accumulates)
        (announced.of_accumulates accumulates) (settles.of_accumulates accumulates)

theorem orderly_fetch {history : List LedgerEvent}
    (consistent : world.Consistent history) (orderly : world.Orderly topic)
    {consumer : Consumer}
    (done : ∀ positions, consumer.positions = some positions →
      world.DoneAt consumer.topic positions) (stats : SettlementStats) :
    let result := step .book world ⟨consumer, stats, .idle⟩
    result.2.2 = world ∧ result.2.1.Orderly world := by
  have reading := orderly.doneAt_reading done
  have taken := consumer.fetchCase world.broker
  unfold step fetch
  generalize consumer.fetch world.broker = result at taken
  rcases result with ⟨answer, after⟩
  dsimp only at taken ⊢
  cases taken with
  | failed error => exact ⟨rfl, .idle consumer stats done⟩
  | nothing turn =>
      refine ⟨rfl, .idle _ stats ?_⟩
      rintro positions ⟨⟩
      exact reading
  | message turn message position stands =>
      obtain ⟨name, entry, logged, same⟩ := stands.payload
      have announced := consistent.logs name entry logged
      rw [same] at announced
      exact ⟨rfl, .delivering _ stats (consumer.reading world.broker) message _ rfl
        reading position stands announced (.running _ rfl)⟩

theorem orderly_commit (orderly : world.Orderly topic) {consumer : Consumer}
    {positions : List Int} {message : InboundMessage}
    (reads : consumer.positions =
      some (positions.set message.partition (message.offset + 1)))
    (done : world.DoneAt consumer.topic positions)
    (position : positions[message.partition]? = some message.offset)
    (stands : Consumer.Stands world.broker consumer.topic message)
    (resolved : world.Resolved message.payload) (stats : SettlementStats)
    (task : MemberTask) :
    let result := commit ⟨consumer, stats, task⟩ world message
    world.Accumulates result.2 ∧ result.2.Orderly topic ∧
      result.1.Orderly result.2 := by
  obtain ⟨topic_eq, nonneg, entry, present, same⟩ := stands
  have below : world.DoneBelow ⟨consumer.topic, message.partition⟩
      (message.offset + 1) := by
    apply (done _ _ position).succ nonneg present
    rw [same]
    exact resolved
  have next := done.set below
  rw [← topic_eq] at below
  obtain ⟨accumulates, after⟩ := orderly.commit consumer.group below
  have idle (stats : SettlementStats) :
      Orderly (world.commit consumer.group message).2 ⟨consumer, stats, .idle⟩ := by
    refine .idle consumer stats fun others held => ?_
    rw [reads] at held
    cases held
    exact next.of_accumulates accumulates
  unfold commit
  rcases shape : world.commit consumer.group message with ⟨answer, later⟩
  rw [shape] at accumulates after idle
  cases answer with
  | error error => exact ⟨accumulates, after, idle _⟩
  | ok => exact ⟨accumulates, after, idle _⟩

/-- A member commits a message only after its payment has been settled. -/
theorem orderly_step {history : List LedgerEvent} (consistent : world.Consistent history)
    (orderly : world.Orderly topic) {member : Member} (ready : member.Orderly world) :
    let result := step .book world member
    world.Accumulates result.2.2 ∧ result.2.2.Orderly topic ∧
      result.2.1.Orderly result.2.2 := by
  cases ready with
  | idle consumer stats done =>
      obtain ⟨same, next⟩ := orderly_fetch consistent orderly done stats
      dsimp only
      rw [same]
      exact ⟨.refl world, orderly, next⟩
  | delivering consumer stats positions message delivery reads done position stands
      announced settles =>
      cases settles with
      | running stage settles =>
          obtain ⟨accumulates, after, next⟩ :=
            Delivery.orderly_step consistent orderly announced settles
          exact ⟨accumulates, after, .delivering _ _ positions message _ reads
            (done.of_accumulates accumulates) position (stands.of_accumulates accumulates)
            (announced.of_accumulates accumulates) next⟩
      | answered disposition resolved =>
          exact orderly_commit orderly reads done position stands resolved stats _

end Member

end Clearing
