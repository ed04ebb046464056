import Clearing.Proofs.Bus.Consumer
import Clearing.Proofs.Pipeline.Operations
import Clearing.Settlement.Member
/-!
From the topic to the records.  A member of a settlement group hands the ledger
orders of payments that the book holds, and records of a payment what the
ledger has decided about it.
-/

namespace Clearing

def DeliveryStage.Sound (world : World) : DeliveryStage → Prop
  | .receive payload => world.Announced payload
  | .dropSource order | .dropDestination order =>
      world.ledger.decisions.get? order.id = some .applied
  | .record id status _ => world.Justified id status

def MemberTask.Sound (world : World) : MemberTask → Prop
  | .idle => True
  | .delivering _ delivery => delivery.AtStage (DeliveryStage.Sound world)

theorem DeliveryStage.Sound.of_grows {before after : World}
    {stage : DeliveryStage} (sound : stage.Sound before)
    (grows : before.Grows after) : stage.Sound after := by
  cases stage with
  | receive payload => exact grows.announced sound
  | dropSource order | dropDestination order =>
      exact grows.decided order.id .applied sound
  | record id status disposition => exact grows.justified sound

theorem MemberTask.Sound.of_grows {before after : World} {task : MemberTask}
    (sound : task.Sound before) (grows : before.Grows after) :
    task.Sound after := by
  cases task with
  | idle => exact trivial
  | delivering message delivery =>
      exact Call.AtStage.imp (fun _ held => held.of_grows grows) sound

def DeliveryStage.order? : DeliveryStage → Option TransferOrder
  | .receive payload =>
      match SettlementEvent.decode payload with
      | .ok event => event.order?
      | .error _ => none
  | .dropSource _ | .dropDestination _ | .record _ _ _ => none

def DeliveryStage.ledgerEvents (world : World) (stage : DeliveryStage) :
    List LedgerEvent :=
  if world.faults.ledgerSilent then
    []
  else
    stage.order?.toList.map fun order => .call (.transfer order)

def MemberTask.ledgerEvents (world : World) : MemberTask → List LedgerEvent
  | .delivering _ (.running stage) => stage.ledgerEvents world
  | .delivering _ (.answered _) | .idle => []

namespace Delivery

theorem conclude_sound {world : World} {id : String} (disposition : Disposition)
    (justified : ∀ status, disposition.resolvedStatus = some status →
      world.Justified id status) :
    (conclude id disposition).AtStage (DeliveryStage.Sound world) := by
  rw [conclude]
  cases resolved : disposition.resolvedStatus with
  | none => exact trivial
  | some status => exact justified status resolved

theorem ofResult_error_sound {world : World} {order : TransferOrder}
    {error : LedgerError} (final : error.isTransient = false) {code : String}
    (held : world.ledger.decisions.get? order.id = some (.rejected code)) :
    (ofResult order (.error error)).AtStage (DeliveryStage.Sound world) := by
  rw [ofResult, if_neg (by simp [final])]
  apply conclude_sound (.rejected error.code)
  rintro status ⟨⟩
  exact ⟨code, held⟩

theorem ofResult_sound
    {ledger after : Ledger} {order : TransferOrder}
    {answer : Except LedgerError TransferOutcome}
    (asked : ledger.transfer order = (answer, after)) (shape : order.check = .ok ())
    {world : World} (same : world.ledger = after) :
    (ofResult order answer).AtStage (DeliveryStage.Sound world) := by
  cases Ledger.transferCase asked with
  | malformed error malformed =>
      rw [shape] at malformed
      cases malformed
  | offline _ _ => exact trivial
  | decided decision _ _ held =>
      have kept : world.ledger.decisions.get? order.id = some decision := by
        rw [same]
        exact held
      cases decision with
      | applied =>
          apply conclude_sound .alreadySettled
          rintro status ⟨⟩
          exact kept
      | rejected code => exact ofResult_error_sound rfl kept
  | refused error _ _ _ refusal _ =>
      apply ofResult_error_sound (LedgerError.isTransient_of_isRefusal refusal)
      rw [same, Ledger.refused, Table.get?_insert, if_pos rfl]
  | applied movement _ _ _ _ _ =>
      change world.ledger.decisions.get? order.id = some .applied
      rw [same, Ledger.moving, Table.get?_insert, if_pos rfl]

/-- A delivery hands over orders of the book and reports decisions. -/
theorem step_sound {world : World} {history : List LedgerEvent}
    (consistent : world.Consistent history) {stage : DeliveryStage}
    (sound : stage.Sound world) :
    world.Keeps (step .book world stage).2 history (stage.ledgerEvents world) ∧
      (step .book world stage).1.AtStage
        (DeliveryStage.Sound (step .book world stage).2) := by
  -- only a delivery at its first stage hands an order to the ledger
  have quiet (asks : stage.order? = none) : stage.ledgerEvents world = [] := by
    rw [DeliveryStage.ledgerEvents, asks]
    split <;> rfl
  have unchanged := (World.Extends.refl world).keeps consistent
  cases stage with
  | receive payload =>
      have announced := sound
      obtain ⟨order, ⟨event, decoded, ordered, shape⟩, covered⟩ := sound
      have given : (DeliveryStage.receive payload).order? = some order := by
        rw [DeliveryStage.order?, decoded]
        exact ordered
      rw [step_receive .book world decoded ordered, DeliveryStage.ledgerEvents, given]
      split
      · exact ⟨unchanged, announced⟩
      · exact ⟨⟨world.grows_withLedger [.call (.transfer order)],
          consistent.transfer covered⟩, ofResult_sound rfl shape rfl⟩
  | dropSource order =>
      rw [quiet rfl, step]
      split
      · exact ⟨unchanged, sound⟩
      · have dropped := world.extends_dropBalance order.source
        exact ⟨dropped.keeps consistent, dropped.grows.decided _ _ sound⟩
  | dropDestination order =>
      rw [quiet rfl, step]
      split
      · exact ⟨unchanged, sound⟩
      · have dropped := world.extends_dropBalance order.destination
        refine ⟨dropped.keeps consistent, conclude_sound .settled ?_⟩
        rintro status ⟨⟩
        exact dropped.grows.decided _ _ sound
  | record id status disposition =>
      rw [quiet rfl]
      exact ⟨(World.extends_updateStatus sound).keeps consistent, trivial⟩

end Delivery

namespace Consumer

theorem payload_of_fetch
    {consumer after : Consumer} {broker : Broker} {message : InboundMessage}
    (fetched : consumer.fetch broker = (.ok (some message), after)) :
    ∃ name, ∃ entry ∈ broker.log name, entry.payload = message.payload := by
  have taken := consumer.fetchCase broker
  rw [fetched] at taken
  cases taken with
  | message turn _ position stands => exact stands.payload

end Consumer

namespace Member

theorem commit_sound (member : Member) (world : World) (message : InboundMessage) :
    world.Extends (member.commit world message).2 ∧
      (member.commit world message).1.task = .idle := by
  have committed := world.extends_commit member.consumer.group message
  rw [commit]
  rcases shape : world.commit member.consumer.group message with ⟨answer, after⟩
  rw [shape] at committed
  cases answer <;> exact ⟨committed, rfl⟩

theorem payload_of_fetch
    {member after : Member} {broker : Broker} {message : InboundMessage}
    (fetched : member.fetch broker = (.ok (some message), after)) :
    ∃ name, ∃ entry ∈ broker.log name, entry.payload = message.payload := by
  rcases shape : member.consumer.fetch broker with ⟨answer, consumer⟩
  rw [fetch, shape] at fetched
  cases fetched
  exact Consumer.payload_of_fetch shape

theorem task_fetch (member : Member) (broker : Broker) :
    (member.fetch broker).2.task = member.task :=
  rfl

theorem step_sound {world : World} {history : List LedgerEvent}
    (consistent : world.Consistent history) {member : Member}
    (sound : member.task.Sound world) :
    world.Keeps (member.step .book world).2.2 history
        (member.task.ledgerEvents world) ∧
      (member.step .book world).2.1.task.Sound (member.step .book world).2.2 := by
  have unchanged := (World.Extends.refl world).keeps consistent
  rw [step]
  rcases shape : member.task with _ | ⟨message, stage | disposition⟩
  · dsimp only
    have task := member.task_fetch world.broker
    rcases fetched : member.fetch world.broker with ⟨answer, after⟩
    rw [fetched, shape] at task
    rcases answer with error | _ | message
    · refine ⟨unchanged, ?_⟩
      rw [task]
      exact trivial
    · refine ⟨unchanged, ?_⟩
      rw [task]
      exact trivial
    · obtain ⟨name, entry, present, same⟩ := payload_of_fetch fetched
      have announced := consistent.logs name entry present
      rw [same] at announced
      exact ⟨unchanged, announced⟩
  · rw [shape] at sound
    exact Delivery.step_sound consistent sound
  · dsimp only
    obtain ⟨committed, idle⟩ := member.commit_sound world message
    refine ⟨committed.keeps consistent, ?_⟩
    rw [idle]
    exact trivial

end Member

end Clearing
