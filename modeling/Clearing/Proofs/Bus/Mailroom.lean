import Clearing.Proofs.Bus.Logs
import Clearing.Proofs.Bus.Relay
/-!
A relay at work.  Messages are pushed into the outbox while the relay makes its passes, the
broker fails and comes back between any two steps, and the relay is lost with the pass that it is
at and begins again.  No entry overtakes another one, none is left out, and none is published
more often than the relay was lost and once more.
-/

namespace Clearing

inductive MailroomEvent where
  | push (message : OutboundMessage)
  | setBroker (outage : Option BusError)
  /-- The relay begins a pass, unless it is at one. -/
  | begin
  | step
  /-- The relay is lost with the pass that it is at. -/
  | crash
deriving DecidableEq

structure Mailroom where
  world : World
  pass : Option RelayPass
  /-- The entries that the broker has accepted, in the order in which it did. -/
  published : List OutboxEntry
  /-- The number of entries that were marked when the pass began. -/
  markedBefore : Nat

def RelayStage.accepted (world : World) : RelayStage → List OutboxEntry
  | .publish entry _ _ => if world.broker.outage.isNone then [entry] else []
  | .load | .mark _ _ _ => []

namespace Mailroom

def opened (partitions : Int) : Mailroom where
  world := .ofPartitions partitions
  pass := none
  published := []
  markedBefore := 0

abbrev outbox (mailroom : Mailroom) : Outbox := mailroom.world.book.outbox

abbrev broker (mailroom : Mailroom) : Broker := mailroom.world.broker

def ids (mailroom : Mailroom) : List Nat := mailroom.published.map OutboxEntry.id

/-- A step was taken, and this is the pass and the world after it. -/
def taken (mailroom : Mailroom) (stage : RelayStage) (outcome : RelayPass × World) :
    Mailroom :=
  { mailroom with
    world := outcome.2
    pass := some outcome.1
    published := mailroom.published ++ stage.accepted mailroom.world }

def apply (batch : Nat) (mailroom : Mailroom) : MailroomEvent → Mailroom
  | .push message =>
      let outbox := (mailroom.outbox.push message).2
      { mailroom with
        world := { mailroom.world with book := { mailroom.world.book with outbox := outbox } } }
  | .setBroker outage =>
      { mailroom with
        world := { mailroom.world with broker := mailroom.broker.setOutage outage } }
  | .begin =>
      match mailroom.pass with
      | some (.running _) => mailroom
      | some (.answered _) | none =>
          { mailroom with
            pass := some .begin
            markedBefore := mailroom.outbox.marked.length }
  | .step =>
      match mailroom.pass with
      | some (.running stage) => mailroom.taken stage (RelayPass.step batch mailroom.world stage)
      | some (.answered _) | none => mailroom
  | .crash => { mailroom with pass := none }

def after (batch : Nat) (mailroom : Mailroom) (events : List MailroomEvent) : Mailroom :=
  events.foldl (apply batch) mailroom

/-- What the relay has in hand when so many entries are marked. -/
inductive InHand (mailroom : Mailroom) (crashes marked : Nat) : Option RelayPass → Prop where
  | nothing :
      mailroom.ids.count (marked + 1) ≤ crashes →
      InHand mailroom crashes marked none
  | load :
      mailroom.ids.count (marked + 1) ≤ crashes →
      mailroom.markedBefore = marked →
      InHand mailroom crashes marked (some (.running .load))
  | publish (entry : OutboxEntry) (rest : List OutboxEntry) (relayed : Nat) :
      mailroom.ids.count (marked + 1) ≤ crashes →
      mailroom.markedBefore + relayed = marked →
      entry :: rest <+: mailroom.outbox.unpublished →
      InHand mailroom crashes marked (some (.running (.publish entry rest relayed)))
  | mark (entry : OutboxEntry) (rest : List OutboxEntry) (relayed : Nat) :
      marked + 1 ∈ mailroom.ids →
      mailroom.markedBefore + relayed = marked →
      entry :: rest <+: mailroom.outbox.unpublished →
      InHand mailroom crashes marked (some (.running (.mark entry.id rest relayed)))
  | answered (relayed : Nat) :
      mailroom.ids.count (marked + 1) ≤ crashes →
      mailroom.markedBefore + relayed = marked →
      InHand mailroom crashes marked (some (.answered (.ok relayed)))

/--
After so many losses of the relay, with so many entries marked.  Every marked entry has been
accepted, and of the others at most the first one.
-/
structure Sound (mailroom : Mailroom) (crashes marked : Nat) : Prop where
  faults : mailroom.world.faults = .none
  marks : mailroom.outbox.MarkedUpTo marked
  listed : ∀ entry ∈ mailroom.published, ∃ held ∈ mailroom.outbox.entries,
    held.id = entry.id ∧ held.message = entry.message
  logs : ∀ name, mailroom.broker.log name =
    (mailroom.published.filter fun entry =>
      entry.message.logName mailroom.broker.partitions = name).map fun entry =>
        entry.message.entry
  reached : ∀ id, 0 < id → id ≤ marked → id ∈ mailroom.ids
  below : ∀ id ∈ mailroom.ids, id ≤ marked + 1
  ordered : ∀ earlier entry later, mailroom.published = earlier ++ entry :: later →
    ∀ id, 0 < id → id < entry.id → id ∈ earlier.map OutboxEntry.id
  repeats : ∀ id, mailroom.ids.count id ≤ 1 + crashes
  hand : mailroom.InHand crashes marked mailroom.pass

theorem sound_opened (partitions : Int) : (opened partitions).Sound 0 0 where
  faults := rfl
  marks := Outbox.markedUpTo_empty
  listed entry member := by cases member
  logs name := rfl
  reached id positive least := by omega
  below id member := by cases member
  ordered earlier entry later shape := by simp [opened] at shape
  repeats id := Nat.zero_le _
  hand := .nothing (Nat.le_refl 0)

variable {mailroom : Mailroom} {crashes marked : Nat}

theorem inHand_next {relayed : Nat} {entries : List OutboxEntry}
    (fresh : mailroom.ids.count (marked + 1) ≤ crashes)
    (counted : mailroom.markedBefore + relayed = marked)
    (waiting : entries <+: mailroom.outbox.unpublished) :
    mailroom.InHand crashes marked (some (RelayPass.next relayed entries)) := by
  cases entries with
  | nil => exact .answered relayed fresh counted
  | cons entry rest => exact .publish entry rest relayed fresh counted waiting

theorem InHand.of_waiting {pass : Option RelayPass} {next : Mailroom}
    (hand : mailroom.InHand crashes marked pass)
    (ids : next.ids = mailroom.ids) (before : next.markedBefore = mailroom.markedBefore)
    (waiting : mailroom.outbox.unpublished <+: next.outbox.unpublished) :
    next.InHand crashes marked pass := by
  cases hand with
  | nothing fresh => exact .nothing (ids ▸ fresh)
  | load fresh counted => exact .load (ids ▸ fresh) (before ▸ counted)
  | publish entry rest relayed fresh counted first =>
      exact .publish entry rest relayed (ids ▸ fresh) (before ▸ counted) (first.trans waiting)
  | mark entry rest relayed accepted counted first =>
      exact .mark entry rest relayed (ids ▸ accepted) (before ▸ counted) (first.trans waiting)
  | answered relayed fresh counted => exact .answered relayed (ids ▸ fresh) (before ▸ counted)

/-- After a loss, an entry that was accepted and not marked may be accepted once more. -/
theorem Sound.fresh (sound : mailroom.Sound crashes marked) :
    mailroom.ids.count (marked + 1) ≤ crashes + 1 :=
  (sound.repeats (marked + 1)).trans_eq (Nat.add_comm 1 crashes)

/-- Nothing is published, and the entries are the same ones. -/
theorem Sound.onward (sound : mailroom.Sound crashes marked) {more : Nat}
    (least : crashes ≤ more) {world : World} {pass : Option RelayPass} {before : Nat}
    (faults : world.faults = mailroom.world.faults) (broker : world.broker = mailroom.broker)
    (entries : world.book.outbox.entries = mailroom.outbox.entries)
    (hand : ({ mailroom with
        world := world
        pass := pass
        markedBefore := before } : Mailroom).InHand more marked pass) :
    ({ mailroom with
      world := world
      pass := pass
      markedBefore := before } : Mailroom).Sound more marked where
  faults := faults.trans sound.faults
  marks := ⟨entries ▸ sound.marks.within, entries ▸ sound.marks.place⟩
  listed := entries ▸ sound.listed
  logs := by
    have logs := sound.logs
    rw [← broker] at logs
    exact logs
  reached := sound.reached
  below := sound.below
  ordered := sound.ordered
  repeats id := Nat.le_trans (sound.repeats id) (Nat.add_le_add_left least 1)
  hand := hand

theorem Sound.push (sound : mailroom.Sound crashes marked) (batch : Nat)
    (message : OutboundMessage) :
    (mailroom.apply batch (.push message)).Sound crashes marked where
  faults := sound.faults
  marks := sound.marks.push message
  listed entry member := by
    obtain ⟨held, present, same⟩ := sound.listed entry member
    exact ⟨held, List.mem_append_left _ present, same⟩
  logs := sound.logs
  reached := sound.reached
  below := sound.below
  ordered := sound.ordered
  repeats := sound.repeats
  hand := by
    have waiting : mailroom.outbox.unpublished <+:
        (mailroom.apply batch (.push message)).outbox.unpublished := by
      rw [outbox, apply, Outbox.unpublished_push]
      exact List.prefix_append _ _
    exact sound.hand.of_waiting rfl rfl waiting

theorem Sound.setBroker (sound : mailroom.Sound crashes marked) (batch : Nat)
    (outage : Option BusError) :
    (mailroom.apply batch (.setBroker outage)).Sound crashes marked where
  faults := sound.faults
  marks := sound.marks
  listed := sound.listed
  logs := sound.logs
  reached := sound.reached
  below := sound.below
  ordered := sound.ordered
  repeats := sound.repeats
  hand := by
    have waiting : mailroom.outbox.unpublished <+:
        (mailroom.apply batch (.setBroker outage)).outbox.unpublished := List.prefix_rfl
    exact sound.hand.of_waiting rfl rfl waiting

theorem Sound.begin (sound : mailroom.Sound crashes marked) (batch : Nat) :
    (mailroom.apply batch .begin).Sound crashes marked := by
  have begun (fresh : mailroom.ids.count (marked + 1) ≤ crashes) :
      ({ mailroom with
        pass := some .begin
        markedBefore := mailroom.outbox.marked.length } : Mailroom).Sound crashes marked :=
    sound.onward (Nat.le_refl _) rfl rfl rfl (.load fresh sound.marks.length_marked)
  have hand := sound.hand
  simp only [apply]
  cases held : mailroom.pass with
  | none =>
      rw [held] at hand
      cases hand with
      | nothing fresh => exact begun fresh
  | some pass =>
      rw [held] at hand
      cases pass with
      | running stage => exact sound
      | answered result =>
          cases hand with
          | answered relayed fresh counted => exact begun fresh

theorem Sound.crash (sound : mailroom.Sound crashes marked) (batch : Nat) :
    (mailroom.apply batch .crash).Sound (crashes + 1) marked :=
  sound.onward (Nat.le_succ crashes) rfl rfl rfl (.nothing sound.fresh)

/-- The broker accepts the first entry that waits. -/
theorem Sound.publish (sound : mailroom.Sound crashes marked) {entry : OutboxEntry}
    {rest : List OutboxEntry} {relayed : Nat}
    (fresh : mailroom.ids.count (marked + 1) ≤ crashes)
    (counted : mailroom.markedBefore + relayed = marked)
    (waiting : entry :: rest <+: mailroom.outbox.unpublished) :
    ({ mailroom with
      world := { mailroom.world with broker := (mailroom.broker.append entry.message).2 }
      pass := some (.running (.mark entry.id rest relayed))
      published := mailroom.published ++ [entry] } : Mailroom).Sound crashes marked := by
  obtain ⟨present, numbered⟩ := sound.marks.first waiting
  have ids : (mailroom.published ++ [entry]).map OutboxEntry.id =
      mailroom.ids ++ [marked + 1] := by
    rw [List.map_append, List.map_singleton, numbered]
    rfl
  exact {
    faults := sound.faults
    marks := sound.marks
    listed := by
      intro other member
      rcases List.mem_append.mp member with held | last
      · exact sound.listed other held
      · rw [List.mem_singleton.mp last]
        exact ⟨entry, List.mem_of_getElem? present, rfl, rfl⟩
    logs := by
      intro name
      have partitions : (mailroom.broker.append entry.message).2.partitions =
          mailroom.broker.partitions := rfl
      have before := sound.logs name
      simp only [Mailroom.broker, partitions] at before ⊢
      rw [Broker.log_append, List.filter_append, List.map_append, ← before]
      by_cases same : name = entry.message.logName mailroom.broker.partitions
      · simp [same]
      · simp [same, Ne.symm same]
    reached := by
      intro id positive least
      rw [Mailroom.ids, ids]
      exact List.mem_append_left _ (sound.reached id positive least)
    below := by
      intro id member
      rw [Mailroom.ids, ids] at member
      rcases List.mem_append.mp member with held | last
      · exact sound.below id held
      · exact (List.mem_singleton.mp last).le
    ordered := by
      intro earlier other later shape id positive less
      rcases List.eq_nil_or_concat later with rfl | ⟨front, last, rfl⟩
      · obtain ⟨rfl, same⟩ := List.append_inj' shape rfl
        cases same
        exact sound.reached id positive (by omega)
      · rw [List.concat_eq_append, ← List.cons_append, ← List.append_assoc] at shape
        exact sound.ordered earlier other front (List.append_inj' shape rfl).1 id positive less
    repeats := by
      intro id
      have before := sound.repeats id
      rw [Mailroom.ids, ids, List.count_append, List.count_singleton]
      by_cases same : id = marked + 1
      · subst same
        simp
        omega
      · simp [Ne.symm same]
        omega
    hand := by
      refine .mark entry rest relayed ?_ counted waiting
      rw [Mailroom.ids, ids]
      exact List.mem_append_right _ (List.mem_singleton.mpr rfl) }

/-- The first entry that waits is marked, and what is behind it waits on. -/
theorem Sound.mark (sound : mailroom.Sound crashes marked) {entry : OutboxEntry}
    {rest : List OutboxEntry} {relayed : Nat} (accepted : marked + 1 ∈ mailroom.ids)
    (counted : mailroom.markedBefore + relayed = marked)
    (waiting : entry :: rest <+: mailroom.outbox.unpublished) :
    ({ mailroom with
      world := mailroom.world.markPublished entry.id
      pass := some (RelayPass.next (relayed + 1) rest) } : Mailroom).Sound crashes
        (marked + 1) := by
  obtain ⟨present, numbered⟩ := sound.marks.first waiting
  have remaining := sound.marks.waiting_markPublished waiting
  have unaccepted : mailroom.ids.count (marked + 1 + 1) = 0 := by
    rw [List.count_eq_zero]
    intro member
    have least := sound.below _ member
    omega
  rw [numbered] at remaining ⊢
  exact {
    faults := sound.faults
    marks := sound.marks.markPublished (List.getElem?_eq_some_iff.mp present).1
    listed := by
      intro other member
      obtain ⟨held, present, same⟩ := sound.listed other member
      refine ⟨_, List.mem_map_of_mem present, ?_⟩
      split <;> exact same
    logs := sound.logs
    reached := by
      intro id positive least
      rcases Nat.lt_or_eq_of_le least with less | rfl
      · exact sound.reached id positive (Nat.le_of_lt_succ less)
      · exact accepted
    below := fun id member => Nat.le_succ_of_le (sound.below id member)
    ordered := sound.ordered
    repeats := sound.repeats
    hand := by
      refine inHand_next (unaccepted.trans_le (Nat.zero_le _)) ?_ remaining
      rw [← Nat.add_assoc, counted] }

theorem Sound.taken (sound : mailroom.Sound crashes marked) (batch : Nat)
    {stage : RelayStage} (hand : mailroom.InHand crashes marked (some (.running stage))) :
    ∃ more, (mailroom.taken stage (RelayPass.step batch mailroom.world stage)).Sound
      crashes more := by
  have taken := RelayPass.stepCase batch mailroom.world stage
  generalize RelayPass.step batch mailroom.world stage = outcome at taken ⊢
  obtain ⟨pass, world⟩ := outcome
  unfold Mailroom.taken
  cases taken with
  | unread error failed =>
      rw [sound.faults] at failed
      cases failed
  | loaded =>
      cases hand with
      | load fresh counted =>
          have counted : mailroom.markedBefore + 0 = marked := counted
          rw [RelayStage.accepted, List.append_nil]
          exact ⟨marked, sound.onward (Nat.le_refl _) rfl rfl rfl
            (inHand_next fresh counted (List.take_prefix _ _))⟩
  | refused entry rest relayed error failed =>
      cases hand with
      | publish _ _ _ fresh counted waiting =>
          rw [RelayStage.accepted, failed, if_neg (by simp), List.append_nil]
          exact ⟨marked, sound.onward (Nat.le_refl _) rfl rfl rfl
            (.answered relayed fresh counted)⟩
  | published entry rest relayed available =>
      cases hand with
      | publish _ _ _ fresh counted waiting =>
          rw [RelayStage.accepted, available, if_pos Option.isNone_none]
          exact ⟨marked, sound.publish fresh counted waiting⟩
  | unmarked id rest relayed error failed =>
      rw [sound.faults] at failed
      cases failed
  | marked id rest relayed =>
      cases hand with
      | mark entry _ _ accepted counted waiting =>
          rw [RelayStage.accepted, List.append_nil]
          exact ⟨marked + 1, sound.mark accepted counted waiting⟩

theorem Sound.step (sound : mailroom.Sound crashes marked) (batch : Nat) :
    ∃ more, (mailroom.apply batch .step).Sound crashes more := by
  have hand := sound.hand
  simp only [apply]
  cases held : mailroom.pass with
  | none => exact ⟨marked, sound⟩
  | some pass =>
      rw [held] at hand
      cases pass with
      | answered result => exact ⟨marked, sound⟩
      | running stage => exact sound.taken batch hand

theorem Sound.apply (sound : mailroom.Sound crashes marked) (batch : Nat)
    (event : MailroomEvent) :
    ∃ more, (mailroom.apply batch event).Sound (crashes + [event].count .crash) more := by
  cases event with
  | push message => exact ⟨marked, sound.push batch message⟩
  | setBroker outage => exact ⟨marked, sound.setBroker batch outage⟩
  | begin => exact ⟨marked, sound.begin batch⟩
  | step => exact sound.step batch
  | crash => exact ⟨marked, sound.crash batch⟩

theorem Sound.after (sound : mailroom.Sound crashes marked) (batch : Nat)
    (events : List MailroomEvent) :
    ∃ more, (mailroom.after batch events).Sound (crashes + events.count .crash) more := by
  induction events generalizing mailroom crashes marked with
  | nil => exact ⟨marked, sound⟩
  | cons event events inductionHypothesis =>
      obtain ⟨next, onward⟩ := sound.apply batch event
      rw [List.count_cons, Nat.add_comm (events.count _), ← Nat.add_assoc]
      rw [List.count_singleton] at onward
      exact inductionHypothesis onward

end Mailroom

end Clearing
