import Clearing.Proofs.Balance.Coherence
import Clearing.Proofs.Payment.Desk
/-!
How old a reported balance can be.  The steps of any number of inquiries are taken in any order,
amounts are moved meanwhile, cached balances are dropped or are not, and whatever the inquiries
depend on may fail.  A moment is what has happened until then.
-/

namespace Clearing

structure Enquiry where
  asked : String
  call : Inquiry
deriving DecidableEq

structure InquiryDesk where
  world : World
  inquiries : List Enquiry

inductive InquiryEvent where
  | ask (asked : String)
  /-- The inquiry at a place takes its next step. -/
  | step (place : Nat)
  /-- Some delivery takes a step: it moves an amount or drops a cached balance. -/
  | deliver (sink : StatusSink) (stage : DeliveryStage)
  | intake (settings : IntakeSettings) (stage : IntakeStage)
  | purge
  | disturb (disturbance : Disturbance) (spares : disturbance.SparesCache)

namespace InquiryDesk

def apply (lifetime : Nat) (desk : InquiryDesk) : InquiryEvent → InquiryDesk
  | .ask asked =>
      { desk with inquiries := desk.inquiries ++ [⟨asked, Inquiry.begin asked⟩] }
  | .step place =>
      match desk.inquiries[place]? with
      | none => desk
      | some enquiry =>
          let (call, world) :=
            Call.advance (Inquiry.step lifetime) desk.world enquiry.call
          { world
            inquiries := desk.inquiries.set place { enquiry with call := call } }
  | .deliver sink stage => { desk with world := (Delivery.step sink desk.world stage).2 }
  | .intake settings stage => { desk with world := (Intake.step settings desk.world stage).2 }
  | .purge => { desk with world := desk.world.cachePurge.2 }
  | .disturb disturbance _ => { desk with world := desk.world.disturb disturbance }

end InquiryDesk

structure InquirySetup where
  partitions : Int
  accounts : List (String × Currency × Decimal)
  lifetime : Nat

namespace InquirySetup

def after (setup : InquirySetup) (moment : List InquiryEvent) : InquiryDesk :=
  moment.foldl (InquiryDesk.apply setup.lifetime)
    { world := World.withAccounts setup.partitions setup.accounts
      inquiries := [] }

def cached (setup : InquirySetup) (moment : List InquiryEvent) (account : String) :
    Option StoreEntry :=
  (setup.after moment).world.store.entries.get? (BalanceCache.key account)

def AtStage (setup : InquirySetup) (moment : List InquiryEvent) (place : Nat)
    (stage : InquiryStage) : Prop :=
  ∃ asked, (setup.after moment).inquiries[place]? = some ⟨asked, .running stage⟩

def Told (setup : InquirySetup) (moment : List InquiryEvent) (place : Nat)
    (view : BalanceView) : Prop :=
  ∃ asked, (setup.after moment).inquiries[place]? = some ⟨asked, .answered (.ok view)⟩

/-- At some moment so far, the ledger had a row while an inquiry was under way. -/
def Saw (setup : InquirySetup) (now : List InquiryEvent) (place : Nat) (account : String)
    (row : Account) : Prop :=
  ∃ moment stage, moment <+: now ∧ setup.AtStage moment place stage ∧
    (setup.after moment).world.ledger.account? account = some row

/-- An inquiry has cached a row that it saw, and the entry is there ever since. -/
structure Wrote (setup : InquirySetup) (now written : List InquiryEvent) (writer : Nat)
    (account : String) (row : Account) (entry : StoreEntry) : Prop where
  wrote : written ++ [.step writer] <+: now
  writing : setup.AtStage written writer (.writeCache account row)
  saw : setup.Saw written writer account row
  id_eq : row.id = account
  value_eq : entry.value = row.snapshot.encode
  expires_eq : entry.expires = (setup.after written).world.now + setup.lifetime
  since : ∀ moment, written ++ [.step writer] <+: moment → moment <+: now →
    setup.cached moment account = some entry

/-- Where the balance that an inquiry reports comes from. -/
inductive Source (setup : InquirySetup) (now : List InquiryEvent) (place : Nat)
    (account : String) (view : BalanceView) : Prop where
  /-- The ledger had it while the inquiry was under way. -/
  | ledger (row : Account) :
      setup.Saw now place account row → view.Reports row → Source setup now place account view
  /-- The inquiry read it in the cache, where one that saw it had put it not long before. -/
  | cache (read written : List InquiryEvent) (writer : Nat) (row : Account)
      (entry : StoreEntry) :
      read ++ [.step place] <+: now → setup.AtStage read place (.readCache account) →
      setup.Told (read ++ [.step place]) place view →
      setup.Wrote read written writer account row entry → view.Reports row →
      (setup.after read).world.now < (setup.after written).world.now + setup.lifetime →
      Source setup now place account view

/-- What is known of an inquiry about an account. -/
def Accounted (setup : InquirySetup) (now : List InquiryEvent) (place : Nat)
    (account : String) : Inquiry → Prop
  | .running (.readCache asked) | .running (.readLedger asked) => asked = account
  | .running (.writeCache asked row) =>
      asked = account ∧ row.id = account ∧ setup.Saw now place account row
  | .answered (.ok view) => view.account = account ∧ setup.Source now place account view
  | .answered (.error _) => True

structure Sound (setup : InquirySetup) (now : List InquiryEvent) : Prop where
  keyed : (setup.after now).world.ledger.Keyed
  cached : ∀ account entry, setup.cached now account = some entry →
    ∃ written writer row, setup.Wrote now written writer account row entry
  inquiries : ∀ place asked call, (setup.after now).inquiries[place]? = some ⟨asked, call⟩ →
    setup.Accounted now place (Text.trim asked) call

variable {setup : InquirySetup} {now later : List InquiryEvent} {place : Nat}
  {account : String}

theorem Saw.mono {row : Account} (saw : setup.Saw now place account row)
    (grown : now <+: later) : setup.Saw later place account row := by
  obtain ⟨moment, stage, early, underway, stood⟩ := saw
  exact ⟨moment, stage, early.trans grown, underway, stood⟩

theorem Source.mono {view : BalanceView} (source : setup.Source now place account view)
    (grown : now <+: later) : setup.Source later place account view := by
  cases source with
  | ledger row saw reports => exact .ledger row (saw.mono grown) reports
  | cache read written writer row entry early reading told wrote reports fresh =>
      exact .cache read written writer row entry (early.trans grown) reading told wrote reports
        fresh

theorem Accounted.mono {call : Inquiry} (accounted : setup.Accounted now place account call)
    (grown : now <+: later) : setup.Accounted later place account call := by
  rcases call with (asked | asked | ⟨asked, row⟩) | (error | view)
  · exact accounted
  · exact accounted
  · obtain ⟨same, own, saw⟩ := accounted
    exact ⟨same, own, saw.mono grown⟩
  · exact trivial
  · obtain ⟨own, source⟩ := accounted
    exact ⟨own, source.mono grown⟩

theorem after_concat (setup : InquirySetup) (now : List InquiryEvent) (event : InquiryEvent) :
    setup.after (now ++ [event]) = (setup.after now).apply setup.lifetime event :=
  List.foldl_append

theorem Wrote.concat {written : List InquiryEvent} {writer : Nat} {row : Account}
    {entry : StoreEntry} (wrote : setup.Wrote now written writer account row entry)
    {event : InquiryEvent} (stays : setup.cached (now ++ [event]) account = some entry) :
    setup.Wrote (now ++ [event]) written writer account row entry :=
  { wrote with
    wrote := wrote.wrote.trans (List.prefix_append _ _)
    since := fun moment began early => by
      rcases List.prefix_concat_iff.mp early with rfl | earlier
      · exact stays
      · exact wrote.since moment began earlier }

theorem Sound.exists_wrote (sound : setup.Sound now) {entry : StoreEntry}
    (held : setup.cached now account = some entry) {event : InquiryEvent}
    (stays : setup.cached (now ++ [event]) account = some entry) :
    ∃ written writer row, setup.Wrote (now ++ [event]) written writer account row entry := by
  obtain ⟨written, writer, row, wrote⟩ := sound.cached account entry held
  exact ⟨written, writer, row, wrote.concat stays⟩

theorem accounted_begin (setup : InquirySetup) (now : List InquiryEvent) (place : Nat)
    (asked : String) :
    setup.Accounted now place (Text.trim asked) (Inquiry.begin asked) := by
  by_cases blank : Text.trim asked = ""
  · rw [Inquiry.begin_of_blank blank]
    exact trivial
  · rw [Inquiry.begin_of_named blank]
    exact rfl

theorem Sound.of_kept (sound : setup.Sound now) {event : InquiryEvent} {world : World}
    (next : setup.after (now ++ [event]) = { setup.after now with world := world })
    (keyed : world.ledger.Keyed)
    (kept : ∀ account entry,
      world.store.entries.get? (BalanceCache.key account) = some entry →
        setup.cached now account = some entry) :
    setup.Sound (now ++ [event]) where
  keyed := next ▸ keyed
  cached account entry found := by
    have held := found
    rw [InquirySetup.cached, next] at held
    exact sound.exists_wrote (kept account entry held) found
  inquiries place asked call present := by
    rw [next] at present
    exact (sound.inquiries place asked call present).mono (List.prefix_append _ _)

theorem Sound.ask (sound : setup.Sound now) (asked : String) :
    setup.Sound (now ++ [.ask asked]) := by
  have next := setup.after_concat now (.ask asked)
  refine ⟨?_, fun account entry found => ?_, fun place other call present => ?_⟩
  · rw [next]
    exact sound.keyed
  · have held := found
    rw [InquirySetup.cached, next] at held
    exact sound.exists_wrote held found
  · rw [next, InquiryDesk.apply, List.getElem?_append] at present
    split at present
    · exact (sound.inquiries place other call present).mono (List.prefix_append _ _)
    · cases List.mem_singleton.mp (List.mem_of_getElem? present)
      exact setup.accounted_begin _ place asked

theorem Sound.accounted_step (sound : setup.Sound now) {asked : String} {stage : InquiryStage}
    (present : (setup.after now).inquiries[place]? = some ⟨asked, .running stage⟩)
    (told : ∀ view,
      (Inquiry.step setup.lifetime (setup.after now).world stage).1 = .answered (.ok view) →
        setup.Told (now ++ [.step place]) place view) :
    setup.Accounted (now ++ [.step place]) place (Text.trim asked)
      (Inquiry.step setup.lifetime (setup.after now).world stage).1 := by
  have grown := List.prefix_append now [InquiryEvent.step place]
  have held := sound.inquiries place asked _ present
  have taken := Inquiry.stepCase setup.lifetime (setup.after now).world stage
  generalize Inquiry.step setup.lifetime (setup.after now).world stage = result at taken told ⊢
  rcases result with ⟨call, after⟩
  dsimp only at taken told held ⊢
  cases taken with
  | silent stage silent => exact held.mono grown
  | hit account entry snapshot found live decoded =>
      cases held
      -- whoever wrote the entry had seen the row, and the entry has not expired yet
      obtain ⟨written, writer, row, wrote⟩ := sound.cached _ entry found
      have same : snapshot = row.snapshot.plain := by
        rw [wrote.value_eq, Snapshot.decode_encode] at decoded
        exact (Except.ok.inj decoded).symm
      subst same
      refine ⟨rfl, .cache now written writer row entry (List.prefix_refl _) ⟨asked, present⟩
        (told _ rfl) wrote ?_ (wrote.expires_eq ▸ live)⟩
      rw [← wrote.id_eq]
      exact Snapshot.reports_view_plain row
  | missed account store kept unread => exact held
  | unreachable account offline => exact trivial
  | absent account online nobody => exact trivial
  | found account row online stands =>
      cases held
      exact ⟨rfl, sound.keyed _ row stands, now, _, grown, ⟨asked, present⟩, stands⟩
  | unwritten account row | written account row =>
      obtain ⟨rfl, own, saw⟩ := held
      exact ⟨own, .ledger row (saw.mono grown) row.reports_view⟩

theorem Sound.wrote_step (sound : setup.Sound now) {asked : String} {row : Account}
    (present : (setup.after now).inquiries[place]? =
      some ⟨asked, .running (.writeCache account row)⟩)
    (found : setup.cached (now ++ [.step place]) account =
      some ⟨row.snapshot.encode, (setup.after now).world.now + setup.lifetime⟩) :
    setup.Wrote (now ++ [.step place]) now place account row
      ⟨row.snapshot.encode, (setup.after now).world.now + setup.lifetime⟩ := by
  obtain ⟨rfl, own, saw⟩ := sound.inquiries place asked _ present
  exact
    { wrote := List.prefix_refl _
      writing := ⟨asked, present⟩
      saw := saw
      id_eq := own
      value_eq := rfl
      expires_eq := rfl
      -- the only moment since the write is the one right after it
      since := fun moment began early => by
        rw [early.eq_of_length_le began.length_le]
        exact found }

theorem Sound.step_running (sound : setup.Sound now) {asked : String} {stage : InquiryStage}
    (present : (setup.after now).inquiries[place]? = some ⟨asked, .running stage⟩) :
    setup.Sound (now ++ [.step place]) := by
  have next := setup.after_concat now (.step place)
  rw [InquiryDesk.apply, present] at next
  obtain ⟨bound, _⟩ := List.getElem?_eq_some_iff.mp present
  have own : (setup.after (now ++ [.step place])).inquiries[place]? =
      some ⟨asked, (Inquiry.step setup.lifetime (setup.after now).world stage).1⟩ := by
    rw [next]
    exact List.getElem?_set_self bound
  refine ⟨?_, fun account entry found => ?_, fun other question call there => ?_⟩
  · rw [next]
    exact (Inquiry.ledger_step setup.lifetime _ stage).symm ▸ sound.keyed
  · have held := found
    rw [InquirySetup.cached, next] at held
    rcases Inquiry.entries_step_cases held with earlier | ⟨row, rfl, rfl⟩
    · exact sound.exists_wrote earlier found
    · exact ⟨now, place, row, sound.wrote_step present found⟩
  · by_cases mine : place = other
    · subst mine
      rw [own] at there
      cases there
      exact sound.accounted_step present fun view told => ⟨asked, told ▸ own⟩
    · rw [next] at there
      rw [List.getElem?_set_ne mine] at there
      exact (sound.inquiries other question call there).mono (List.prefix_append _ _)

theorem Sound.step (sound : setup.Sound now) (place : Nat) :
    setup.Sound (now ++ [.step place]) := by
  cases present : (setup.after now).inquiries[place]? with
  | none =>
      have next := setup.after_concat now (.step place)
      rw [InquiryDesk.apply, present] at next
      exact sound.of_kept next sound.keyed fun _ _ found => found
  | some enquiry =>
      rcases enquiry with ⟨asked, stage | answer⟩
      · exact sound.step_running present
      · obtain ⟨bound, same⟩ := List.getElem?_eq_some_iff.mp present
        have next := setup.after_concat now (.step place)
        rw [InquiryDesk.apply, present] at next
        dsimp only [Call.advance] at next
        rw [← same, List.set_getElem_self bound] at next
        exact sound.of_kept next sound.keyed fun _ _ found => found

theorem Sound.concat (sound : setup.Sound now) (event : InquiryEvent) :
    setup.Sound (now ++ [event]) := by
  have next := setup.after_concat now event
  cases event with
  | ask asked => exact sound.ask asked
  | step place => exact sound.step place
  | deliver sink stage =>
      have effect := Delivery.effect_step sink (setup.after now).world stage
      exact sound.of_kept next (effect.keyed sound.keyed) fun _ _ found => effect.kept found
  | intake settings stage =>
      refine sound.of_kept next ?_ fun account entry found => ?_
      · rw [(Intake.ledger_step settings _ stage).1]
        exact sound.keyed
      · rw [Intake.entries_step settings _ stage (BalanceCache.key_ne_key account)] at found
        exact found
  | purge =>
      refine sound.of_kept next ?_ fun _ _ found => World.kept_cachePurge _ found
      rw [(World.ledger_cachePurge _).1]
      exact sound.keyed
  | disturb disturbance spares =>
      cases disturbance with
      | openAccount opening =>
          exact sound.of_kept next (sound.keyed.openAccount _ _ _) fun _ _ found => found
      | setCache store => cases spares
      | setLedger _ | setBook _ | setBroker _ | setFaults _ | setClock _ _ _ =>
          exact sound.of_kept next sound.keyed fun _ _ found => found

theorem sound_after (setup : InquirySetup) (now : List InquiryEvent) : setup.Sound now := by
  -- on the last event, so that the moments of an earlier run stay moments of this one
  induction now using List.reverseRecOn with
  | nil =>
      exact
        { keyed := World.keyed_withAccounts setup.partitions setup.accounts
          cached := fun account entry found => by cases found
          inquiries := fun place asked call present => by cases present }
  | append_singleton now event inductionHypothesis => exact inductionHypothesis.concat event

/--
However the steps of inquiries, transfers and invalidations are interleaved, and whatever of
them fails, a reported balance is one that the ledger had while the inquiry was under way, or
one that it had while another inquiry was, which cached it less than the lifetime of an entry
before this one read it.
-/
theorem reports_recent_balance (setup : InquirySetup) (now : List InquiryEvent) (place : Nat)
    (asked : String) (view : BalanceView)
    (answered : (setup.after now).inquiries[place]? = some ⟨asked, .answered (.ok view)⟩) :
    view.account = Text.trim asked ∧ setup.Source now place (Text.trim asked) view :=
  (setup.sound_after now).inquiries place asked _ answered

/-- Balances live in the cache as long as they do by default. -/
def smallPayment : InquirySetup where
  partitions := 1
  accounts := World.emptyPayee
  lifetime := BalanceCache.defaultLifetime

/--
An inquiry reads the ledger before the payment and caches what it read after the payment has
dropped the cached balances, and another inquiry comes a second before the entry expires.
-/
def slowReader : List InquiryEvent :=
  [.ask "b", .step 0, .step 0,
    .deliver .log (.receive World.smallEvent.encode),
    .deliver .log (.dropSource Ledger.smallOrder),
    .deliver .log (.dropDestination Ledger.smallOrder),
    .step 0,
    .disturb World.almostExpired trivial,
    .ask " b ", .step 1]

/-- The second inquiry is told of nothing, though the account has been paid. -/
theorem reports_recent_balance_slowReader :
    let view : BalanceView := ⟨"b", .zero, Currency.dollar.code⟩
    (smallPayment.after slowReader).inquiries[1]? = some ⟨" b ", .answered (.ok view)⟩ ∧
      ((smallPayment.after slowReader).world.ledger.account? "b").map Account.balance =
        some Ledger.smallOrder.amount ∧
      smallPayment.Source slowReader 1 (Text.trim " b ") view := by
  intro view
  have answered :
      (smallPayment.after slowReader).inquiries[1]? = some ⟨" b ", .answered (.ok view)⟩ := by
    decide +kernel
  have paid : ((smallPayment.after slowReader).world.ledger.account? "b").map Account.balance =
      some Ledger.smallOrder.amount := by
    decide +kernel
  exact ⟨answered, paid, (reports_recent_balance smallPayment slowReader 1 " b " view answered).2⟩

end InquirySetup

end Clearing
