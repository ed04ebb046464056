import Clearing.Proofs.Cache.Store
import Clearing.Proofs.Ledger.Outcomes
import Clearing.Proofs.Payment.Books
import Clearing.Proofs.Settlement.Verdicts
import Clearing.Settlement.Member
/-!
Effects of a delivery.  The message and the ledger alone decide what becomes of a delivery.
Only a settlement changes rows and drops cached balances, only a settlement or a rejection
decides anything, and no record changes but that of the payment, from pending to what was
decided.  What fails on the way, in the cache or in the book, changes nothing else.
-/

namespace Clearing

/-- The balances of two accounts are dropped from the cache, unless the cache fails. -/
structure Store.Drops (before : Store) (failure? : Option CacheError)
    (source destination : String) (after : Store) : Prop where
  up : failure? = none → ∀ key, after.entries.get? key =
    if key = "balance:" ++ source ∨ key = "balance:" ++ destination then
      none
    else
      before.entries.get? key
  down : failure? ≠ none → after = before

/-- The record of a payment has been told the status, if the book answers and it was pending. -/
structure PaymentBook.Told (before : PaymentBook) (id status : String)
    (moment : Timestamp) (after : PaymentBook) : Prop where
  outbox_eq : after.outbox = before.outbox
  online_eq : after.online = before.online
  keys_eq : after.records.keys = before.records.keys
  others : ∀ other, other ≠ id → after.records.get? other = before.records.get? other
  moved : before.online = true → ∀ record, before.records.get? id = some record →
    record.status = "PENDING" →
    ∃ next, after.records.get? id = some next ∧ record.SamePayment next ∧
      next.status = status ∧ next.version = record.version + 1 ∧ next.updated = moment
  kept : (before.online = true → ∀ record, before.records.get? id = some record →
    record.status ≠ "PENDING") → after = before

theorem PaymentBook.told_updateStatus (book : PaymentBook) (id : String)
    {status : PaymentStatus} (terminal : status.isTerminal = true) (moment : Timestamp) :
    book.Told id status.name moment (book.updateStatus id status moment).2 := by
  have taken := book.updateCase id status moment
  generalize book.updateStatus id status moment = result at taken ⊢
  rcases result with ⟨answer, after⟩
  have unmoved (fixed : book.online = true → ∀ record, book.records.get? id = some record →
      record.status ≠ "PENDING") : book.Told id status.name moment book :=
    { outbox_eq := rfl
      online_eq := rfl
      keys_eq := rfl
      others := fun _ _ => rfl
      moved := fun online record found pending => absurd pending (fixed online record found)
      kept := fun _ => rfl }
  cases taken with
  | offline lost =>
      refine unmoved fun online => ?_
      rw [lost] at online
      cases online
  | missing _ nobody =>
      refine unmoved fun _ record found => ?_
      rw [nobody] at found
      cases found
  | corrupt held error _ heldFound unknown =>
      refine unmoved fun _ record found pending => ?_
      rw [heldFound] at found
      cases found
      have known := PaymentStatus.ofName?_name .pending
      rw [PaymentStatus.ofStored, pending.trans (rfl : _ = PaymentStatus.pending.name), known]
        at unknown
      cases unknown
  | settled held _ _ heldFound settled =>
      refine unmoved fun _ record found pending => ?_
      rw [heldFound] at found
      cases found
      exact PaymentRecord.not_isSettled_of_pending pending settled
  | unchanged _ _ _ _ waiting =>
      rw [waiting] at terminal
      cases terminal
  | moved held online heldFound pending _ =>
      refine ⟨rfl, rfl, Table.keys_insert_of_get? heldFound _, fun other different => ?_,
        fun _ record found _ => ?_, fun fixed => absurd pending (fixed online held heldFound)⟩
      · rw [Table.get?_insert, if_neg different]
      · rw [heldFound] at found
        cases found
        exact ⟨_, (Table.get?_insert _ _ _ _).trans (if_pos rfl),
          held.samePayment_withStatus status moment, rfl, rfl, rfl⟩

/-- One message more is counted, under what became of it. -/
inductive SettlementStats.Counted (before : SettlementStats) :
    Disposition → SettlementStats → Prop where
  | settled :
      Counted before .settled { before with settled := before.settled + 1 }
  | alreadySettled :
      Counted before .alreadySettled { before with duplicates := before.duplicates + 1 }
  | rejected (code : String) :
      Counted before (.rejected code) { before with rejected := before.rejected + 1 }
  | deferred :
      Counted before .deferred { before with deferred := before.deferred + 1 }
  | poison :
      Counted before .poison { before with poison := before.poison + 1 }

theorem SettlementStats.counted_count (stats : SettlementStats) (disposition : Disposition) :
    stats.Counted disposition (stats.count disposition) := by
  cases disposition <;> constructor

/-- An order for the payment of an event, between its accounts and in its currency. -/
structure SettlementEvent.Asks (event : SettlementEvent) (order : TransferOrder) : Prop where
  id_eq : order.id = event.id
  source_eq : order.source = event.source
  destination_eq : order.destination = event.destination
  amount_eq : order.amount = event.amount
  currency_eq : Text.upperText (Text.trim event.currency) = order.currency.code

theorem SettlementEvent.asks_of_order?_eq_some {event : SettlementEvent}
    {order : TransferOrder} (ordered : event.order? = some order) : event.Asks order := by
  obtain ⟨currency, named, rfl⟩ := Option.map_eq_some_iff.mp ordered
  exact ⟨rfl, rfl, rfl, rfl, (Currency.ofCode?_eq_some_iff _ _).mp named⟩

/-- What telling a ledger of a message comes to. -/
inductive Ledger.TellCase (ledger : Ledger) (payload : Bytes) : Disposition → Ledger → Prop where
  | settled (event : SettlementEvent) (order : TransferOrder) (payer payee : Account)
      (after : Ledger) :
      SettlementEvent.decode payload = .ok event →
      event.order? = some order →
      ledger.Applied order payer payee after →
      TellCase ledger payload .settled after
  | refused (event : SettlementEvent) (code : String) (after : Ledger) :
      SettlementEvent.decode payload = .ok event →
      ledger.decisions.get? event.id = none →
      after.accounts = ledger.accounts →
      after.decisions = ledger.decisions.insert event.id (.rejected code) →
      TellCase ledger payload (.rejected code) after
  | unmoved (disposition : Disposition) (after : Ledger) :
      disposition ≠ .settled →
      after.accounts = ledger.accounts →
      after.decisions = ledger.decisions →
      TellCase ledger payload disposition after

theorem Ledger.Refuses.isRefusal {ledger : Ledger} {order : TransferOrder}
    {error : LedgerError} (refuses : ledger.Refuses order error) : error.isRefusal = true := by
  cases refuses <;> rfl

theorem Ledger.Solvent.tellCase {ledger : Ledger} (solvent : ledger.Solvent)
    (payload : Bytes) :
    ledger.TellCase payload (.ofPayload payload ledger) (ledger.told payload) := by
  unfold Disposition.ofPayload Ledger.told
  cases decoded : SettlementEvent.decode payload with
  | error fault => exact .unmoved .poison ledger nofun rfl rfl
  | ok event =>
      dsimp only
      cases ordered : event.order? with
      | none =>
          obtain ⟨verdict, after⟩ :=
            SettlementEvent.verdict_of_order?_eq_none ordered ledger
          rw [verdict, after]
          exact .unmoved _ ledger nofun rfl rfl
      | some order =>
          obtain ⟨verdict, after⟩ :=
            SettlementEvent.verdict_of_order?_eq_some ordered ledger
          have sameId := SettlementEvent.id_of_order?_eq_some ordered
          rw [verdict, after]
          have taken : ledger.TransferCase order (ledger.transfer order).1
            (ledger.transfer order).2 := transferCase rfl
          rcases taken.applied_or_unapplied solvent with
            ⟨_, payer, payee, answer, applied⟩ | ⟨others, unapplied, _⟩
          · rw [answer]
            exact .settled event order payer payee _ decoded ordered applied
          · by_cases considers : ledger.Considers order
            · obtain ⟨error, refuses, answer, decided⟩ := unapplied.refused considers
              rw [answer, Disposition.ofAnswer,
                if_neg (by simp [LedgerError.isTransient_of_isRefusal refuses.isRefusal])]
              rw [sameId] at decided
              exact .refused event error.code _ decoded (sameId ▸ considers.undecided)
                unapplied.accounts decided
            · refine .unmoved _ _ (fun settled => ?_) unapplied.accounts
                (unapplied.ignored considers)
              obtain ⟨payer, payee, answer⟩ := Disposition.ofAnswer_eq_settled_iff.mp settled
              exact others payer payee answer

namespace World

/-- Two worlds differ at most in their stores. -/
def SameElsewhere (before after : World) : Prop :=
  after = { before with ledger := after.ledger, book := after.book, store := after.store }

/-- What a delivery with a disposition leaves behind, and what it leaves as it is. -/
structure Effects (before : World) (payload : Bytes) (disposition : Disposition)
    (after : World) : Prop where
  elsewhere : before.SameElsewhere after
  online_eq : after.ledger.online = before.ledger.online
  settled : disposition = .settled → ∃ event order payer payee,
    SettlementEvent.decode payload = .ok event ∧ event.Asks order ∧
      before.ledger.Applied order payer payee after.ledger ∧
      before.store.Drops before.faults.cacheDelete order.source order.destination after.store
  rows_kept : disposition ≠ .settled → after.ledger.accounts = before.ledger.accounts
  cache_kept : disposition ≠ .settled → after.store = before.store
  rejected : ∀ code, disposition = .rejected code →
    after.ledger.decisions = before.ledger.decisions ∨
      ∃ event, SettlementEvent.decode payload = .ok event ∧
        before.ledger.decisions.get? event.id = none ∧
        after.ledger.decisions = before.ledger.decisions.insert event.id (.rejected code)
  decisions_kept :
    disposition = .alreadySettled ∨ disposition = .deferred ∨ disposition = .poison →
      after.ledger.decisions = before.ledger.decisions
  completed : disposition = .settled ∨ disposition = .alreadySettled →
    ∃ event, SettlementEvent.decode payload = .ok event ∧
      before.book.Told event.id "COMPLETED" before.moment after.book
  failed : ∀ code, disposition = .rejected code →
    ∃ event, SettlementEvent.decode payload = .ok event ∧
      before.book.Told event.id "FAILED" before.moment after.book
  records_kept : disposition = .deferred ∨ disposition = .poison → after.book = before.book

theorem drops_dropBalances (world : World) (source destination : String) :
    world.store.Drops world.faults.cacheDelete source destination
      (world.dropBalances source destination).store where
  up up key := by
    change _ = if key = BalanceCache.key source ∨ key = BalanceCache.key destination then _ else _
    simp only [dropBalances, dropBalance, cacheDelete, up]
    rw [Store.entries_delete, Store.entries_delete]
    by_cases ofDestination : key = BalanceCache.key destination
    · rw [if_pos ofDestination, if_pos (.inr ofDestination)]
    · simp only [ofDestination, if_false, or_false]
  down failed := by
    obtain ⟨error, down⟩ := Option.ne_none_iff_exists'.mp failed
    simp only [dropBalances, dropBalance, cacheDelete, down]

theorem store_reported (world : World) (sink : StatusSink) (id source destination : String)
    (disposition : Disposition) :
    (disposition = .settled → world.store.Drops world.faults.cacheDelete source destination
      (world.reported sink id source destination disposition).store) ∧
    (disposition ≠ .settled →
      (world.reported sink id source destination disposition).store = world.store) := by
  unfold reported
  rw [recorded_eq]
  refine ⟨fun settled => ?_, fun others => ?_⟩
  · rw [if_pos settled]
    exact world.drops_dropBalances source destination
  · rw [if_neg others]

theorem book_recorded (world : World) (id : String) (disposition : Disposition) :
    (world.recorded .book id disposition).book =
      match disposition.resolvedStatus with
      | some status => (world.book.updateStatus id status world.moment).2
      | none => world.book := by
  unfold recorded
  cases disposition.resolvedStatus <;> rfl

theorem book_reported (world : World) (id source destination : String)
    (disposition : Disposition) :
    (world.reported .book id source destination disposition).book =
      (world.recorded .book id disposition).book := by
  unfold reported
  split
  · rw [book_recorded, book_recorded, dropBalances_eq]
  · rfl

theorem effects_reported {world : World} {payload : Bytes} {event : SettlementEvent}
    {disposition : Disposition} {ledger : Ledger}
    (decoded : SettlementEvent.decode payload = .ok event)
    (told : world.ledger.TellCase payload disposition ledger)
    (online : ledger.online = world.ledger.online) :
    world.Effects payload disposition
      ({ world with ledger := ledger }.reported .book event.id event.source event.destination
        disposition) := by
  let telling : World := { world with ledger := ledger }
  obtain ⟨dropped, kept⟩ :=
    telling.store_reported .book event.id event.source event.destination disposition
  have rest := telling.reported_eq .book event.id event.source event.destination disposition
  have book := telling.book_reported event.id event.source event.destination disposition
  rw [book_recorded] at book
  generalize telling.reported .book event.id event.source event.destination disposition = after
    at dropped kept rest book ⊢
  have ledger_eq : after.ledger = ledger := by rw [rest]
  refine
    { elsewhere := ?_, online_eq := ?_, settled := ?_, rows_kept := fun unsettled => ?_,
      cache_kept := kept, rejected := ?_, decisions_kept := fun undecided => ?_,
      completed := fun applied => ?_, failed := ?_, records_kept := fun unresolved => ?_ }
  · rw [SameElsewhere, ledger_eq]
    exact rest
  · rw [ledger_eq, online]
  · rintro rfl
    rw [ledger_eq]
    cases told with
    | settled same order payer payee _ again ordered applied =>
        rw [decoded] at again
        cases again
        have asks := SettlementEvent.asks_of_order?_eq_some ordered
        refine ⟨event, order, payer, payee, decoded, asks, applied, ?_⟩
        rw [asks.source_eq, asks.destination_eq]
        exact dropped rfl
    | unmoved _ _ unsettled _ _ => exact absurd rfl unsettled
  · rw [ledger_eq]
    cases told with
    | settled _ _ _ _ _ _ _ _ => exact absurd rfl unsettled
    | refused _ _ _ _ _ accounts _ => exact accounts
    | unmoved _ _ _ accounts _ => exact accounts
  · rintro code rfl
    rw [ledger_eq]
    cases told with
    | refused same _ _ again undecided _ decided => exact .inr ⟨same, again, undecided, decided⟩
    | unmoved _ _ _ _ decisions => exact .inl decisions
  · rw [ledger_eq]
    cases told with
    | settled _ _ _ _ _ _ _ _ | refused _ _ _ _ _ _ _ => simp at undecided
    | unmoved _ _ _ _ decisions => exact decisions
  · refine ⟨event, decoded, ?_⟩
    have moved : after.book =
        (world.book.updateStatus event.id .completed world.moment).2 := by
      rcases applied with rfl | rfl <;> exact book
    have told := world.book.told_updateStatus event.id
      (rfl : PaymentStatus.completed.isTerminal = true) world.moment
    rw [moved]
    exact told
  · rintro code rfl
    have told := world.book.told_updateStatus event.id
      (rfl : PaymentStatus.failed.isTerminal = true) world.moment
    refine ⟨event, decoded, ?_⟩
    rw [book]
    exact told
  · rcases unresolved with rfl | rfl <;> exact book

/-- The world after a delivery with nothing in between, in one go. -/
def delivered (world : World) (payload : Bytes) : World :=
  match SettlementEvent.decode payload with
  | .error _ => world
  | .ok event => world.settled .book event

theorem settle_eq_delivered_or (world : World) (payload : Bytes) :
    world.settle .book payload =
        (.answered (.ofPayload payload world.ledger), world.delivered payload) ∨
      (world.faults.ledgerSilent = true ∨ world.faults.cacheSilent = true) ∧
        ∃ stage, (world.settle .book payload).1 = .running stage := by
  unfold delivered Disposition.ofPayload
  cases decoded : SettlementEvent.decode payload with
  | error fault => exact .inl (Delivery.run_begin_of_decode_eq_error .book world decoded 3)
  | ok event => exact settle_eq_or .book world decoded

theorem delivered_congr {world other : World} (ledger : other.ledger = world.ledger)
    (payload : Bytes) :
    (other.delivered payload).ledger = (world.delivered payload).ledger ∧
      (other.book = world.book → other.moment = world.moment →
        (other.delivered payload).book = (world.delivered payload).book) := by
  unfold delivered settled
  rw [ledger]
  cases SettlementEvent.decode payload with
  | error fault => exact ⟨ledger, fun book _ => book⟩
  | ok event =>
      dsimp only
      refine ⟨by rw [ledger_reported, ledger_reported], fun book moment => ?_⟩
      rw [book_reported, book_reported, book_recorded, book_recorded, book, moment]

theorem effects_delivered {world : World} (solvent : world.ledger.Solvent) (payload : Bytes) :
    world.Effects payload (.ofPayload payload world.ledger) (world.delivered payload) := by
  have told := solvent.tellCase payload
  unfold delivered Disposition.ofPayload settled Ledger.told at *
  cases decoded : SettlementEvent.decode payload with
  | error fault =>
      exact
        { elsewhere := rfl, online_eq := rfl, settled := nofun, rows_kept := fun _ => rfl,
          cache_kept := fun _ => rfl, rejected := nofun, decisions_kept := fun _ => rfl,
          completed := nofun, failed := nofun, records_kept := fun _ => rfl }
  | ok event =>
      rw [decoded] at told
      refine effects_reported decoded told ?_
      unfold SettlementEvent.ledgerAfter
      split
      · exact Ledger.online_transfer rfl
      · rfl

end World

namespace Member

def receive (member : Member) (message : InboundMessage) : Member :=
  { member with task := .delivering message (Delivery.begin message.payload) }

/-- Take steps as long as the disposition of the message in hand is not known. -/
def work : (steps : Nat) → World → Member → Member × World
  | 0, world, member => (member, world)
  | steps + 1, world, member =>
      match member.task with
      | .delivering _ (.running _) =>
          let (_, member, world) := member.step .book world
          work steps world member
      | _ => (member, world)

/-- Deal with a message with nothing in between, up to the commit of its offset. -/
def process (member : Member) (world : World) (message : InboundMessage) : Member × World :=
  work Delivery.steps world (member.receive message)

/-- The disposition of the message in hand, if it is known. -/
def disposition? (member : Member) : Option Disposition :=
  match member.task with
  | .idle => none
  | .delivering _ delivery => delivery.answer?

/-- The member when the delivery of a message has come so far. -/
def reaching (member : Member) (message : InboundMessage) (delivery : Delivery) : Member :=
  { member with
    task := .delivering message delivery
    stats :=
      match delivery with
      | .answered disposition => member.stats.count disposition
      | .running _ => member.stats }

variable {member : Member} {message : InboundMessage}

theorem step_running (world : World) {stage : DeliveryStage}
    (task : member.task = .delivering message (.running stage)) :
    (member.step .book world).2 =
      (member.reaching message (Delivery.step .book world stage).1,
        (Delivery.step .book world stage).2) := by
  rw [step, task]
  rfl

theorem work_answered (steps : Nat) (world : World) {disposition : Disposition}
    (task : member.task = .delivering message (.answered disposition)) :
    work steps world member = (member, world) := by
  cases steps with
  | zero => rfl
  | succ steps => rw [work, task]

/-- The work of a member is that of its delivery. -/
theorem work_running (steps : Nat) (world : World) {stage : DeliveryStage}
    (task : member.task = .delivering message (.running stage)) :
    work steps world member =
      (member.reaching message
          (Call.run (Delivery.step .book) steps world (.running stage)).1,
        (Call.run (Delivery.step .book) steps world (.running stage)).2) := by
  induction steps generalizing member world stage with
  | zero =>
      rw [work, Call.run, reaching, ← task]
  | succ steps inductionHypothesis =>
      have taken : work (steps + 1) world member =
          work steps (member.step .book world).2.2 (member.step .book world).2.1 := by
        rw [work, task]
      rw [taken, step_running world task, Call.run_succ_running]
      cases reached : (Delivery.step .book world stage).1 with
      | running next => rw [inductionHypothesis _ rfl]; rfl
      | answered disposition => rw [work_answered steps _ rfl, Call.run_answered]

theorem process_eq (member : Member) (world : World) (message : InboundMessage) :
    member.process world message =
      (member.reaching message (world.settle .book message.payload).1,
        (world.settle .book message.payload).2) :=
  work_running Delivery.steps world rfl

theorem process_eq_or (member : Member) (world : World) (message : InboundMessage) :
    member.process world message =
        (member.reaching message (.answered (.ofPayload message.payload world.ledger)),
          world.delivered message.payload) ∨
      (world.faults.ledgerSilent = true ∨ world.faults.cacheSilent = true) ∧
        (member.process world message).1.disposition? = none := by
  rw [process_eq]
  rcases world.settle_eq_delivered_or message.payload with settled | ⟨silent, stage, running⟩
  · rw [settled]
    exact .inl rfl
  · rw [running]
    exact .inr ⟨silent, rfl⟩

/-- A member that knows the disposition of a message has counted it and done no more. -/
theorem process_of_disposition? {world : World} {disposition : Disposition}
    (known : (member.process world message).1.disposition? = some disposition) :
    disposition = .ofPayload message.payload world.ledger ∧
      member.process world message =
        (member.reaching message (.answered disposition), world.delivered message.payload) := by
  rcases member.process_eq_or world message with done | ⟨_, unknown⟩
  · rw [done] at known ⊢
    cases known
    exact ⟨rfl, rfl⟩
  · rw [known] at unknown
    cases unknown

/--
Dealing with a message comes to an end, unless a connection never answers.  It adds one to the
counter of its disposition and has the effects of that disposition and no others, and neither
these nor the disposition depend on the cache, on whoever deals with it, or on anything about the
message but its payload.
-/
theorem delivery_effects (history : List LedgerEvent) (world : World) (member : Member)
    (message : InboundMessage) :
    let before := { world with ledger := Ledger.empty.after history }
    let result := member.process before message
    (before.faults.ledgerSilent = false → before.faults.cacheSilent = false →
      ∃ disposition, result.1.disposition? = some disposition) ∧
    (∀ disposition, result.1.disposition? = some disposition →
      result.1 =
        { member with
          task := .delivering message (.answered disposition)
          stats := result.1.stats } ∧
      member.stats.Counted disposition result.1.stats ∧
      before.Effects message.payload disposition result.2) ∧
    ∀ (other : World) (otherMember : Member) (otherMessage : InboundMessage),
      other.ledger = before.ledger → otherMessage.payload = message.payload →
      ∀ disposition otherDisposition, result.1.disposition? = some disposition →
      (otherMember.process other otherMessage).1.disposition? = some otherDisposition →
        otherDisposition = disposition ∧
        (otherMember.process other otherMessage).2.ledger = result.2.ledger ∧
        (other.book = before.book → other.moment = before.moment →
          (otherMember.process other otherMessage).2.book = result.2.book) := by
  intro before result
  have solvent : before.ledger.Solvent := Ledger.solvent_empty.after history
  refine ⟨fun ledgerAnswers cacheAnswers => ?_, fun disposition known => ?_,
    fun other otherMember otherMessage sameLedger samePayload disposition otherDisposition
      known otherKnown => ?_⟩
  · rcases member.process_eq_or before message with done | ⟨ledgerSilent | cacheSilent, _⟩
    · exact ⟨_, congrArg (·.1.disposition?) done⟩
    · rw [ledgerAnswers] at ledgerSilent
      cases ledgerSilent
    · rw [cacheAnswers] at cacheSilent
      cases cacheSilent
  · obtain ⟨rfl, (ended : result = _)⟩ := process_of_disposition? known
    rw [ended]
    exact ⟨rfl, member.stats.counted_count _, World.effects_delivered solvent message.payload⟩
  · obtain ⟨rfl, (ended : result = _)⟩ := process_of_disposition? known
    obtain ⟨rfl, otherEnded⟩ := process_of_disposition? otherKnown
    rw [ended, otherEnded, sameLedger, samePayload]
    exact ⟨rfl, World.delivered_congr sameLedger message.payload⟩

end Member

end Clearing
