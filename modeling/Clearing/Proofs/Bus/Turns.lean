import Clearing.Proofs.Bus.Subscriptions
import Mathlib.Data.Nat.Count
/-!
Consumers that keep looking.  The turn goes round the partitions, and in each of its
turns a partition hands out the message at the position of the consumer, so every
message comes after as many rounds as there are offsets up to its own.
-/

namespace Clearing.Subscription

/-- The number of looks before a turn that begin with a partition. -/
def served (partitions partition turn : Nat) : Nat :=
  Nat.count (fun look => look % partitions = partition) turn

theorem served_succ (partitions partition turn : Nat) :
    served partitions partition (turn + 1) =
      served partitions partition turn + if turn % partitions = partition then 1 else 0 :=
  Nat.count_succ _ _

theorem served_mono (partitions partition : Nat) :
    Monotone (served partitions partition) :=
  Nat.count_monotone _

theorem served_add_round {partitions partition : Nat} (inRange : partition < partitions)
    (turn : Nat) :
    served partitions partition turn + 1 ≤
      served partitions partition (turn + partitions) := by
  obtain ⟨step, member, reached⟩ :=
    List.mem_map.mp ((Consumer.mem_turnOrder_iff turn partition).mpr inRange)
  have within := List.mem_range.mp member
  calc served partitions partition turn + 1
      ≤ served partitions partition (turn + step) + 1 :=
        Nat.succ_le_succ (served_mono partitions partition (Nat.le_add_right _ _))
    _ = served partitions partition (turn + step + 1) := by
        rw [served_succ, if_pos reached]
    _ ≤ served partitions partition (turn + partitions) :=
        served_mono partitions partition (by omega)

theorem served_add_rounds {partitions partition : Nat} (inRange : partition < partitions)
    (turn rounds : Nat) :
    served partitions partition turn + rounds ≤
      served partitions partition (turn + partitions * rounds) := by
  induction rounds with
  | zero => exact Nat.le_refl _
  | succ rounds inductionHypothesis =>
      calc served partitions partition turn + (rounds + 1)
          ≤ served partitions partition (turn + partitions * rounds) + 1 :=
            Nat.succ_le_succ inductionHypothesis
        _ ≤ served partitions partition (turn + partitions * rounds + partitions) :=
            served_add_round inRange _
        _ = served partitions partition (turn + partitions * (rounds + 1)) := by
            rw [Nat.mul_succ, Nat.add_assoc]

/--
A consumer that has gone on from a turn and a number of looks.  Unless it is past an
offset of a partition, it has stepped over a message there in each turn of it.
-/
structure Advances (partitions partition offset turn looks : Nat)
    (subscription : Subscription) : Prop where
  looks_eq : subscription.consumer.turn + looks = turn + subscription.looks
  unread : subscription.consumer.positions = none → subscription.consumer.turn = turn
  position : ∀ positions position, subscription.consumer.positions = some positions →
    positions[partition]? = some position →
    offset < position ∨
      served partitions partition subscription.consumer.turn ≤
        served partitions partition turn + position

variable {broker : Broker} {subscription : Subscription} {positions : List Int}
  {partition offset turn looks : Nat} {message : InboundMessage}

theorem Sound.advances (sound : subscription.Sound broker) (partition offset : Nat) :
    subscription.Advances broker.partitions partition offset subscription.consumer.turn
      subscription.looks where
  looks_eq := rfl
  unread _ := rfl
  position positions position held stands := by
    cases sound with
    | fresh consumer unread =>
        rw [unread] at held
        cases held
    | reading consumer start received looks own ownHeld reads =>
        rw [ownHeld] at held
        cases held
        have nonneg := reads.nonneg stands
        omega

theorem lt_of_messageAt_eq_none {consumer : Consumer}
    (present : (broker.messages ⟨consumer.topic, partition⟩)[offset]? = some message)
    {position : Int} (nonneg : 0 ≤ position)
    (absent : consumer.messageAt broker partition position = none) : offset < position := by
  obtain ⟨inside, _⟩ := List.getElem?_eq_some_iff.mp present
  by_contra behind
  have earlier : position.toNat <
      (broker.messages ⟨consumer.topic, partition⟩).length := by omega
  have found := Consumer.messageAt_eq_some_iff.mpr
    ⟨nonneg, List.getElem?_eq_getElem earlier⟩
  rw [absent] at found
  cases found

theorem Advances.reading
    (advances : subscription.Advances broker.partitions partition offset turn looks)
    (reads : subscription.Reads broker (subscription.consumer.reading broker))
    {position : Int}
    (held : (subscription.consumer.reading broker)[partition]? = some position) :
    offset < position ∨
      served broker.partitions partition subscription.consumer.turn ≤
        served broker.partitions partition turn + position := by
  cases known : subscription.consumer.positions with
  | none =>
      have nonneg := reads.nonneg held
      rw [advances.unread known]
      omega
  | some positions =>
      rw [Consumer.reading, known] at held
      exact advances.position positions position known held

/-- With every look a consumer goes on in the partition whose turn it is. -/
theorem Advances.fetch
    (advances : subscription.Advances broker.partitions partition offset turn looks)
    (sound : subscription.Sound broker) (nonneg : broker.CommitsNonneg)
    (present : (broker.messages ⟨subscription.consumer.topic, partition⟩)[offset]? =
      some message) :
    (subscription.fetch broker).Advances broker.partitions partition offset turn looks := by
  have reads := sound.reads nonneg
  have stood {position : Int}
      (held : (subscription.consumer.reading broker)[partition]? = some position) :=
    advances.reading reads held
  have counted := advances.looks_eq
  have looked := subscription.consumer.lookCase broker
  unfold Subscription.fetch
  generalize subscription.consumer.fetch broker = result at looked
  rcases result with ⟨answer, consumer⟩
  dsimp only at looked
  cases looked with
  | refused error => exact advances
  | nothing turn passed known =>
      have published : broker.log ⟨subscription.consumer.topic, partition⟩ ≠ [] := by
        intro empty
        rw [Broker.getElem?_messages, empty] at present
        cases present
      rw [known (Broker.hasTopic_of_log_ne_nil published)]
      refine ⟨by dsimp only; omega, (fun unread => by cases unread), ?_⟩
      rintro _ position ⟨⟩ held
      obtain ⟨inside, _⟩ := List.getElem?_eq_some_iff.mp held
      exact .inl (lt_of_messageAt_eq_none present (reads.nonneg held)
        (passed partition (reads.length_eq ▸ inside) position held))
  | message found inRange position _ first =>
      refine ⟨by dsimp only; omega, (fun unread => by cases unread), ?_⟩
      rintro _ reached ⟨⟩ held
      dsimp only
      have step := served_succ broker.partitions partition subscription.consumer.turn
      by_cases same : found.partition = partition
      · subst same
        rw [List.getElem?_set, if_pos rfl, if_pos (reads.length_eq ▸ inRange)] at held
        have reached := Option.some.inj held
        rcases stood position with past | behind
        · omega
        · split at step <;> omega
      · rw [List.getElem?_set, if_neg same] at held
        rcases stood held with past | behind
        · exact .inl past
        · -- another partition comes first only if this one has nothing in its own turn
          by_cases own : subscription.consumer.turn % broker.partitions = partition
          · cases here : subscription.consumer.messageAt broker partition reached with
            | none => exact .inl (lt_of_messageAt_eq_none present (reads.nonneg held) here)
            | some earlier =>
                have chosen := first reached earlier (own ▸ held) (own ▸ here)
                rw [← chosen] at same
                exact absurd (Consumer.place_of_messageAt here).1 same
          · rw [if_neg own] at step
            omega

/-- After a round for every offset up to that of a message, the message has come. -/
theorem Advances.handed
    (advances : subscription.Advances broker.partitions partition offset turn looks)
    (sound : subscription.Sound broker) (inRange : partition < broker.partitions)
    (present : (broker.messages ⟨subscription.consumer.topic, partition⟩)[offset]? =
      some message)
    (enough : looks + broker.partitions * (offset + 1) ≤ subscription.looks) :
    ∃ start, subscription.start = some start ∧
      (start partition ≤ offset → message ∈ subscription.received) := by
  have counted := advances.looks_eq
  have rounds := served_add_rounds inRange turn (offset + 1)
  cases sound with
  | fresh consumer unread =>
      have begun := advances.unread unread
      have positive : 0 < broker.partitions * (offset + 1) :=
        Nat.mul_pos broker.partitions_pos offset.succ_pos
      dsimp only at counted begun enough
      omega
  | reading consumer start received looks positions held reads =>
      refine ⟨start, rfl, fun begun => ?_⟩
      obtain ⟨first, _, reached, _⟩ := reads.follows partition inRange
      refine reads.mem_received inRange reached begun ?_ present
      have later := served_mono broker.partitions partition
        (show turn + broker.partitions * (offset + 1) ≤ consumer.turn by
          dsimp only at counted enough
          omega)
      have position := advances.position positions _ held reached
      dsimp only at position
      omega

end Clearing.Subscription
