import Clearing.Proofs.Settlement.Verdicts
/-!
Messages that are delivered again.  However often a message is delivered, whatever is
delivered, opened or disturbed in between, its deliveries resolve to one status, and
one of them at most settles the payment.
-/

namespace Clearing

/-- A message that has been handed over for settlement, and what has become of it. -/
structure Consignment where
  sink : StatusSink
  payload : Bytes
  delivery : Delivery

structure Consignment.Sound (ledger : Ledger) (consignment : Consignment) : Prop where
  waits : ∀ payload, consignment.delivery = .running (.receive payload) →
    payload = consignment.payload
  resolved : ∀ disposition, consignment.delivery.verdict? = some disposition →
    disposition ≠ .deferred →
    Resolves ledger consignment.payload disposition.resolvedStatus

theorem Consignment.Sound.mono {ledger after : Ledger} {consignment : Consignment}
    (sound : consignment.Sound ledger)
    (kept : ledger.KeepsDecisions after) : consignment.Sound after where
  waits := sound.waits
  resolved disposition verdict answered :=
    (sound.resolved disposition verdict answered).mono kept

inductive DepotEvent where
  /-- A message is handed over, perhaps once more. -/
  | receive (sink : StatusSink) (payload : Bytes)
  /-- The delivery at a place takes a step. -/
  | step (place : Nat)
  | disturb (disturbance : Disturbance)

structure Depot where
  world : World
  consignments : List Consignment

namespace Depot

def opened (partitions : Int) : Depot where
  world := .ofPartitions partitions
  consignments := []

def apply (depot : Depot) : DepotEvent → Depot
  | .receive sink payload =>
      { depot with
        consignments :=
          depot.consignments ++ [⟨sink, payload, Delivery.begin payload⟩] }
  | .step place =>
      match depot.consignments[place]? with
      | none => depot
      | some consignment =>
          let advanced := Call.advance (Delivery.step consignment.sink) depot.world
            consignment.delivery
          { world := advanced.2
            consignments :=
              depot.consignments.set place { consignment with delivery := advanced.1 } }
  | .disturb disturbance => { depot with world := depot.world.disturb disturbance }

def after (depot : Depot) (events : List DepotEvent) : Depot :=
  events.foldl apply depot

/-- The delivery at a place is of a message, and the ledger has applied its order. -/
def SettledAt (depot : Depot) (payload : Bytes) (place : Nat) : Prop :=
  ∃ consignment, depot.consignments[place]? = some consignment ∧
    consignment.payload = payload ∧ consignment.delivery.verdict? = some .settled

structure Sound (depot : Depot) : Prop where
  consignments : ∀ consignment ∈ depot.consignments,
    consignment.Sound depot.world.ledger
  once : ∀ payload first second, depot.SettledAt payload first →
    depot.SettledAt payload second → first = second

theorem sound_opened (partitions : Int) : (opened partitions).Sound where
  consignments consignment member := by cases member
  once payload first second settled := by
    obtain ⟨consignment, present, _⟩ := settled
    cases present

variable {depot : Depot}

theorem Sound.decided_of_settledAt (sound : depot.Sound) {payload : Bytes} {place : Nat}
    (settled : depot.SettledAt payload place) :
    ∃ event, SettlementEvent.decode payload = .ok event ∧
      depot.world.ledger.decisions.get? event.id = some .applied := by
  obtain ⟨consignment, present, rfl, verdict⟩ := settled
  have own := sound.consignments consignment (List.mem_of_getElem? present)
  exact (own.resolved .settled verdict (by decide)).applied_of_completed

theorem settledAt_set {place other : Nat} {next : Consignment} {world : World}
    {payload : Bytes}
    (settled : SettledAt
      { world := world, consignments := depot.consignments.set place next }
      payload other) :
    (other = place ∧ next.payload = payload ∧
        next.delivery.verdict? = some .settled) ∨
      depot.SettledAt payload other := by
  obtain ⟨consignment, present, same, verdict⟩ := settled
  rw [List.getElem?_set] at present
  split at present
  · rename_i here
    split at present
    · cases present
      exact .inl ⟨here.symm, same, verdict⟩
    · cases present
  · exact .inr ⟨consignment, present, same, verdict⟩

/--
A delivery goes on while the ledger keeps its decisions, and it settles the payment
only if no other delivery of the message has.
-/
theorem Sound.set (sound : depot.Sound) {place : Nat} {next : Consignment}
    {world : World}
    (kept : depot.world.ledger.KeepsDecisions world.ledger) (own : next.Sound world.ledger)
    (alone : next.delivery.verdict? = some .settled →
      ∀ other, depot.SettledAt next.payload other → other = place) :
    Sound { world := world, consignments := depot.consignments.set place next } where
  consignments other member := by
    rcases List.mem_or_eq_of_mem_set member with earlier | rfl
    · exact (sound.consignments other earlier).mono kept
    · exact own
  once payload first second one other := by
    rcases settledAt_set one with ⟨rfl, rfl, verdict⟩ | before
    · rcases settledAt_set other with ⟨rfl, _, _⟩ | before
      · rfl
      · exact (alone verdict second before).symm
    · rcases settledAt_set other with ⟨rfl, rfl, verdict⟩ | beforeToo
      · exact alone verdict first before
      · exact sound.once payload first second before beforeToo

theorem sound_of_verdict? {ledger : Ledger} {consignment : Consignment}
    {disposition : Disposition}
    (verdict : consignment.delivery.verdict? = some disposition)
    (resolved : disposition ≠ .deferred →
      Resolves ledger consignment.payload disposition.resolvedStatus) :
    consignment.Sound ledger where
  waits payload waiting := by
    rw [waiting] at verdict
    cases verdict
  resolved other known answered := by
    rw [verdict] at known
    cases known
    exact resolved answered

/-- The ledger is told of a message, unless it never answers. -/
theorem Sound.receive (sound : depot.Sound) {place : Nat} {sink : StatusSink}
    {payload : Bytes}
    (present : depot.consignments[place]? =
      some ⟨sink, payload, .running (.receive payload)⟩) :
    Sound
      { world := (Delivery.step sink depot.world (.receive payload)).2
        consignments := depot.consignments.set place
          ⟨sink, payload, (Delivery.step sink depot.world (.receive payload)).1⟩ } := by
  have own := sound.consignments _ (List.mem_of_getElem? present)
  rcases Delivery.step_receive_eq_or sink depot.world payload with
    silent | ⟨verdict, ledger⟩
  · rw [silent]
    exact sound.set (fun _ _ held => held) own fun settled => by cases settled
  · refine sound.set
      (fun _ _ held => Delivery.decision_step sink depot.world _ held) ?_ ?_
    · refine sound_of_verdict? verdict fun answered => ?_
      rw [ledger]
      exact Disposition.resolves_ofPayload answered
    · -- whatever is settled now had no decision, so nothing of it was settled before
      intro settled other before
      obtain ⟨event, decoded, held⟩ := sound.decided_of_settledAt before
      rw [verdict] at settled
      obtain ⟨same, again, fresh⟩ :=
        Disposition.undecided_of_ofPayload (Option.some.inj settled)
      rw [decoded] at again
      cases again
      rw [held] at fresh
      cases fresh

theorem Sound.step (sound : depot.Sound) (place : Nat) :
    (depot.apply (.step place)).Sound := by
  simp only [Depot.apply]
  cases present : depot.consignments[place]? with
  | none => exact sound
  | some consignment =>
      have own := sound.consignments consignment (List.mem_of_getElem? present)
      rcases consignment with ⟨sink, payload, stage | disposition⟩
      · dsimp only [Call.advance]
        cases known : Delivery.verdict? (.running stage) with
        | some disposition =>
            obtain ⟨verdict, ledger⟩ :=
              Delivery.step_of_verdict? sink depot.world known
            refine sound.set
              (fun _ _ held => Delivery.decision_step sink depot.world stage held) ?_ ?_
            · refine sound_of_verdict? verdict fun answered => ?_
              rw [ledger]
              exact own.resolved disposition known answered
            · intro settled other before
              refine sound.once payload other place before ⟨_, present, rfl, ?_⟩
              exact known.trans (verdict.symm.trans settled)
        | none =>
            cases stage with
            | receive waiting =>
                obtain rfl := own.waits waiting rfl
                exact sound.receive present
            | dropSource order | dropDestination order => cases known
            | record id status disposition => cases known
      · exact sound.set (fun _ _ held => held) own fun verdict other settled =>
          sound.once payload other place settled ⟨_, present, rfl, verdict⟩

theorem sound_begin (ledger : Ledger) (sink : StatusSink) (payload : Bytes) :
    Consignment.Sound ledger ⟨sink, payload, Delivery.begin payload⟩ where
  waits waiting begun := by
    cases begun
    rfl
  resolved disposition verdict := by cases verdict

theorem settledAt_of_receive {sink : StatusSink} {payload other : Bytes} {place : Nat}
    (settled : (depot.apply (.receive sink payload)).SettledAt other place) :
    depot.SettledAt other place := by
  obtain ⟨consignment, present, same, verdict⟩ := settled
  refine ⟨consignment, ?_, same, verdict⟩
  simp only [Depot.apply, List.getElem?_append] at present
  split at present
  · exact present
  · rw [List.mem_singleton.mp (List.mem_of_getElem? present)] at verdict
    cases verdict

theorem Sound.apply (sound : depot.Sound) (event : DepotEvent) :
    (depot.apply event).Sound := by
  cases event with
  | step place => exact sound.step place
  | disturb disturbance =>
      have kept : depot.world.ledger.KeepsDecisions
          (depot.world.disturb disturbance).ledger := by
        rw [World.ledger_disturb]
        exact fun _ _ held => Ledger.decision_after held disturbance.ledgerEvents
      exact ⟨fun consignment member => (sound.consignments consignment member).mono kept,
        sound.once⟩
  | receive sink payload =>
      constructor
      · intro consignment member
        rcases List.mem_append.mp member with earlier | new
        · exact sound.consignments consignment earlier
        · rw [List.mem_singleton.mp new]
          exact sound_begin depot.world.ledger sink payload
      · intro other first second one another
        exact sound.once other first second (settledAt_of_receive one)
          (settledAt_of_receive another)

theorem Sound.after (sound : depot.Sound) (events : List DepotEvent) :
    (depot.after events).Sound := by
  induction events generalizing depot with
  | nil => exact sound
  | cons event rest inductionHypothesis => exact inductionHypothesis (sound.apply event)

/-- Some status is all that the deliveries of a message can still resolve to. -/
theorem exists_resolved (ledger : Ledger) (payload : Bytes) :
    ∃ status?, (status? = none ↔ ∃ fault, SettlementEvent.decode payload = .error fault) ∧
      ∀ status, Resolves ledger payload status → status = status? := by
  by_cases certain : ∃ status, Resolves ledger payload status
  · obtain ⟨status, resolves⟩ := certain
    exact ⟨status, resolves.eq_none_iff, fun other found => found.unique resolves⟩
  · cases decoded : SettlementEvent.decode payload with
    | error fault => exact absurd ⟨none, .poison fault decoded⟩ certain
    | ok event =>
        refine ⟨some .failed, ?_, fun status resolves =>
          absurd ⟨status, resolves⟩ certain⟩
        constructor
        · intro none
          cases none
        · rintro ⟨fault, unreadable⟩
          cases unreadable

/--
However often a message is delivered, and whatever else is delivered, opened or
disturbed in between, all its deliveries that are not deferred resolve to the same
status, which is none exactly if the message is no event, and one of them at most
settles the payment.
-/
theorem redelivery_stable (partitions : Int) (events : List DepotEvent)
    (payload : Bytes) :
    let depot := (opened partitions).after events
    (∃ status?,
      (status? = none ↔ ∃ fault, SettlementEvent.decode payload = .error fault) ∧
      ∀ consignment ∈ depot.consignments, consignment.payload = payload →
        ∀ disposition, consignment.delivery = .answered disposition →
          disposition ≠ .deferred → disposition.resolvedStatus = status?) ∧
    ∀ (first second : Nat) (sink other : StatusSink),
      depot.consignments[first]? = some ⟨sink, payload, .answered .settled⟩ →
      depot.consignments[second]? = some ⟨other, payload, .answered .settled⟩ →
      first = second := by
  intro depot
  have sound : depot.Sound := (sound_opened partitions).after events
  refine ⟨?_, fun first second sink other one another => ?_⟩
  · obtain ⟨status?, poison, stable⟩ := exists_resolved depot.world.ledger payload
    refine ⟨status?, poison, ?_⟩
    rintro consignment member rfl disposition answered final
    refine stable _ ((sound.consignments consignment member).resolved disposition ?_ final)
    rw [answered]
    rfl
  · exact sound.once payload first second ⟨_, one, rfl, rfl⟩ ⟨_, another, rfl, rfl⟩

end Depot

end Clearing
