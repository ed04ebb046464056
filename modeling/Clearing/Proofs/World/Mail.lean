import Clearing.Proofs.Bus.Consumer
import Clearing.Proofs.World.Accumulation
import Clearing.Settlement.Member
import Mathlib.Data.List.Nodup
/-!
Where messages lie.  A message lies in the outbox under its number or in a log at its offset.
It stays there with the headers that it has, and a consumer is handed what lies in a log.
-/

namespace Clearing

/-- Where a message can lie. -/
inductive MailPlace where
  | outbox (id : Nat)
  | log (name : LogName) (offset : Nat)

/-- The place in the logs of a message that a consumer was handed. -/
def InboundMessage.place (message : InboundMessage) : MailPlace :=
  .log ⟨message.topic, message.partition⟩ message.offset.toNat

namespace World

/-- The headers of the message at a place. -/
def headersAt? (world : World) : MailPlace → Option Headers
  | .outbox id =>
      (world.book.outbox.entries.find? fun entry => entry.id == id).map fun entry =>
        entry.message.headers
  | .log name offset => (world.broker.log name)[offset]?.map LogEntry.headers

def Holds (world : World) (entry : OutboxEntry) : Prop :=
  world.headersAt? (.outbox entry.id) = some entry.message.headers

def Numbered (world : World) : Prop :=
  world.book.outbox.entries.map OutboxEntry.id =
    List.range' 1 world.book.outbox.entries.length

/--
A place holds what it held, or it held nothing and has been given headers of a kind.  The numbers
of the outbox have no gap if they had none.
-/
structure Posts (before after : World) (Sent : Headers → Prop) : Prop where
  places : ∀ place, after.headersAt? place = before.headersAt? place ∨
    before.headersAt? place = none ∧
      ∃ headers, after.headersAt? place = some headers ∧ Sent headers
  numbered : before.Numbered → after.Numbered

variable {before after world : World} {Sent : Headers → Prop}

theorem Posts.of_eq (outbox : after.book.outbox.entries = before.book.outbox.entries)
    (logs : after.broker.logs = before.broker.logs) : before.Posts after Sent where
  places place := by
    refine .inl ?_
    cases place with
    | outbox id => simp only [headersAt?, outbox]
    | log name offset => simp only [headersAt?, Broker.log, logs]
  numbered numbered := by
    rw [Numbered, outbox]
    exact numbered

theorem Posts.refl (world : World) (Sent : Headers → Prop) : world.Posts world Sent :=
  .of_eq rfl rfl

theorem Posts.imp {More : Headers → Prop} (posts : before.Posts after Sent)
    (implies : ∀ headers, Sent headers → More headers) : before.Posts after More where
  places place := (posts.places place).imp_right fun ⟨empty, headers, found, sent⟩ =>
    ⟨empty, headers, found, implies headers sent⟩
  numbered := posts.numbered

theorem Posts.keeps (posts : before.Posts after Sent) {place : MailPlace} {headers : Headers}
    (held : before.headersAt? place = some headers) : after.headersAt? place = some headers := by
  rcases posts.places place with same | ⟨empty, _⟩
  · exact same.trans held
  · rw [empty] at held
    cases held

theorem Posts.held_or_sent (posts : before.Posts after Sent) {place : MailPlace}
    {headers : Headers} (held : after.headersAt? place = some headers) :
    before.headersAt? place = some headers ∨
      before.headersAt? place = none ∧ Sent headers := by
  rcases posts.places place with same | ⟨empty, given, found, sent⟩
  · exact .inl (same.symm.trans held)
  · rw [held] at found
    cases found
    exact .inr ⟨empty, sent⟩

theorem posts_append (world : World) {message : OutboundMessage} (sent : Sent message.headers) :
    world.Posts { world with broker := (world.broker.append message).2 } Sent where
  places place := by
    cases place with
    | outbox id => exact .inl rfl
    | log name offset =>
        simp only [headersAt?, Broker.log_append]
        split
        · rcases Nat.lt_trichotomy offset (world.broker.log name).length with inside | rfl | past
          · rw [List.getElem?_append_left inside]
            exact .inl rfl
          · refine .inr ⟨by simp, message.headers, ?_, sent⟩
            rw [List.getElem?_concat_length]
            rfl
          · refine .inl ?_
            rw [List.getElem?_eq_none (by simpa using past), List.getElem?_eq_none past.le]
        · exact .inl rfl
  numbered numbered := numbered

theorem posts_push (world : World) (record : PaymentRecord) {message : OutboundMessage}
    (sent : Sent message.headers) :
    world.Posts { world with book := world.book.store record (some message) } Sent where
  places place := by
    cases place with
    | log name offset => exact .inl rfl
    | outbox id =>
        simp only [headersAt?, PaymentBook.store, Outbox.push, List.find?_append]
        cases held : world.book.outbox.entries.find? fun entry => entry.id == id with
        | some entry => exact .inl rfl
        | none =>
            rw [Option.none_or, List.find?_singleton]
            split
            · exact .inr ⟨rfl, message.headers, rfl, sent⟩
            · exact .inl rfl
  numbered numbered := by
    rw [Numbered] at numbered ⊢
    simp only [PaymentBook.store, Outbox.push, List.map_append, List.length_append,
      List.map_singleton, List.length_singleton, List.range'_1_concat, numbered, Nat.add_comm 1]

theorem posts_store (world : World) (record : PaymentRecord) {stored : Option OutboundMessage}
    (sent : ∀ message, stored = some message → Sent message.headers) :
    world.Posts { world with book := world.book.store record stored } Sent := by
  cases stored with
  | none => exact .of_eq rfl rfl
  | some message => exact world.posts_push record (sent message rfl)

theorem posts_markPublished (world : World) (id : Nat) :
    world.Posts (world.markPublished id) Sent := by
  have kept (entry : OutboxEntry) :
      (if entry.id = id then { entry with published := true } else entry).id = entry.id ∧
        (if entry.id = id then { entry with published := true } else entry).message =
          entry.message := by
    split <;> exact ⟨rfl, rfl⟩
  constructor
  · intro place
    refine .inl ?_
    cases place with
    | log name offset => rfl
    | outbox number =>
        simp only [headersAt?, markPublished, Outbox.markPublished, List.find?_map,
          Option.map_map, Function.comp_def, kept]
  · intro numbered
    simpa only [Numbered, markPublished, Outbox.markPublished, List.map_map, List.length_map,
      Function.comp_def, kept] using numbered

theorem posts_disturb (world : World) (disturbance : Disturbance) :
    world.Posts (world.disturb disturbance) Sent := by
  cases disturbance <;> exact .of_eq rfl rfl

theorem Numbered.holds (numbered : world.Numbered) {entry : OutboxEntry}
    (member : entry ∈ world.book.outbox.entries) : world.Holds entry := by
  have distinct : (world.book.outbox.entries.map OutboxEntry.id).Nodup := by
    rw [numbered]
    exact List.nodup_range'
  cases found : world.book.outbox.entries.find? fun other => other.id == entry.id with
  | none =>
      have missed := List.find?_eq_none.mp found entry member
      simp at missed
  | some other =>
      have same : other.id = entry.id := by simpa using List.find?_some found
      have own := List.inj_on_of_nodup_map distinct (List.mem_of_find?_eq_some found) member same
      simp only [Holds, headersAt?, found, own, Option.map_some]

theorem headersAt?_place_of_fetch {consumer next : Consumer} {message : InboundMessage}
    (fetched : consumer.fetch world.broker = (.ok (some message), next)) :
    world.headersAt? message.place = some message.headers := by
  have looked := consumer.lookCase world.broker
  rw [fetched] at looked
  cases looked with
  | message _ _ _ found _ =>
      obtain ⟨_, present⟩ := Consumer.messageAt_eq_some_iff.mp found
      obtain ⟨topic, _, _⟩ := Broker.place_of_messages present
      rw [Broker.getElem?_messages] at present
      obtain ⟨entry, stands, shape⟩ := Option.map_eq_some_iff.mp present
      rw [InboundMessage.place, topic, headersAt?, stands, Option.map_some, ← shape]
      rfl

end World

end Clearing
