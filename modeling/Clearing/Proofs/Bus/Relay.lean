import Clearing.Bus.Relay
/-!
What a step of the relay can do, and how far the entries of an outbox have been marked.  The
marks of an outbox that is relayed by one relay are those of its first entries.
-/

namespace Clearing

namespace RelayPass

/-- What a step comes to: the pass and the world after it. -/
inductive StepCase (batch : Nat) (world : World) :
    RelayStage → RelayPass → World → Prop where
  | unread (error : BusError) :
      world.faults.outboxRead = some error →
      StepCase batch world .load (.answered (.error error)) world
  | loaded :
      StepCase batch world .load (next 0 (world.book.outbox.unpublished.take batch))
        (world.pollOutbox batch).2
  | refused (entry : OutboxEntry) (rest : List OutboxEntry) (relayed : Nat)
      (error : BusError) :
      world.broker.outage = some error →
      StepCase batch world (.publish entry rest relayed) (.answered (.ok relayed)) world
  | published (entry : OutboxEntry) (rest : List OutboxEntry) (relayed : Nat) :
      world.broker.outage = none →
      StepCase batch world (.publish entry rest relayed)
        (.running (.mark entry.id rest relayed))
        { world with broker := (world.broker.append entry.message).2 }
  | unmarked (id : Nat) (rest : List OutboxEntry) (relayed : Nat) (error : BusError) :
      world.faults.outboxMark = some error →
      StepCase batch world (.mark id rest relayed) (.answered (.error error)) world
  | marked (id : Nat) (rest : List OutboxEntry) (relayed : Nat) :
      StepCase batch world (.mark id rest relayed) (next (relayed + 1) rest)
        (world.markPublished id)

theorem stepCase (batch : Nat) (world : World) (stage : RelayStage) :
    StepCase batch world stage (step batch world stage).1 (step batch world stage).2 := by
  cases stage with
  | load =>
      unfold step
      cases readable : world.faults.outboxRead with
      | some error => exact .unread error readable
      | none => exact .loaded
  | publish entry rest relayed =>
      unfold step World.publish Broker.publish
      cases available : world.broker.outage with
      | some error => exact .refused entry rest relayed error available
      | none => exact .published entry rest relayed available
  | mark id rest relayed =>
      unfold step
      cases writable : world.faults.outboxMark with
      | some error => exact .unmarked id rest relayed error writable
      | none => exact .marked id rest relayed

end RelayPass

namespace Outbox

def marked (outbox : Outbox) : List OutboxEntry :=
  outbox.entries.filter OutboxEntry.published

/-- Entries are numbered as they stand, and so many of the first ones are marked. -/
structure MarkedUpTo (outbox : Outbox) (count : Nat) : Prop where
  within : count ≤ outbox.entries.length
  place : ∀ index entry, outbox.entries[index]? = some entry →
    entry.id = index + 1 ∧ (entry.published = true ↔ index < count)

theorem markedUpTo_empty : empty.MarkedUpTo 0 where
  within := Nat.le_refl 0
  place index entry present := by cases present

namespace MarkedUpTo

variable {outbox : Outbox} {count : Nat}

theorem push (marks : outbox.MarkedUpTo count) (message : OutboundMessage) :
    (outbox.push message).2.MarkedUpTo count where
  within := by
    have within := marks.within
    simp only [Outbox.push, List.length_append]
    omega
  place index entry present := by
    have within := marks.within
    simp only [Outbox.push, List.getElem?_append, List.getElem?_singleton] at present
    split at present
    · exact marks.place index entry present
    · rename_i past
      split at present
      · rename_i last
        cases present
        have same : index = outbox.entries.length := by omega
        exact ⟨by rw [same], by simp; omega⟩
      · cases present

theorem ids (marks : outbox.MarkedUpTo count) :
    outbox.entries.map OutboxEntry.id = List.range' 1 outbox.entries.length := by
  apply List.ext_getElem?
  intro index
  rw [List.getElem?_map]
  cases present : outbox.entries[index]? with
  | none =>
      have past := List.getElem?_eq_none_iff.mp present
      rw [Option.map_none, List.getElem?_eq_none (by rw [List.length_range']; exact past)]
  | some entry =>
      have inside := (List.getElem?_eq_some_iff.mp present).1
      rw [Option.map_some, (marks.place index entry present).1, List.getElem?_range' inside,
        Nat.one_mul, Nat.add_comm]

theorem eq_of_id (marks : outbox.MarkedUpTo count) {entry other : OutboxEntry}
    (present : entry ∈ outbox.entries) (otherPresent : other ∈ outbox.entries)
    (same : entry.id = other.id) : entry = other := by
  obtain ⟨index, place⟩ := List.mem_iff_getElem?.mp present
  obtain ⟨otherIndex, otherPlace⟩ := List.mem_iff_getElem?.mp otherPresent
  have numbered := (marks.place index entry place).1
  have otherNumbered := (marks.place otherIndex other otherPlace).1
  have indices : index = otherIndex := by omega
  rw [indices, otherPlace] at place
  exact (Option.some.inj place).symm

theorem id_pos (marks : outbox.MarkedUpTo count) {entry : OutboxEntry}
    (present : entry ∈ outbox.entries) : 0 < entry.id := by
  obtain ⟨index, place⟩ := List.mem_iff_getElem?.mp present
  rw [(marks.place index entry place).1]
  exact Nat.succ_pos index

theorem id_le_of_marked (marks : outbox.MarkedUpTo count) {entry : OutboxEntry}
    (member : entry ∈ outbox.marked) : entry.id ≤ count := by
  obtain ⟨present, published⟩ := List.mem_filter.mp member
  obtain ⟨index, place⟩ := List.mem_iff_getElem?.mp present
  obtain ⟨numbered, marked⟩ := marks.place index entry place
  rw [numbered]
  exact marked.mp published

theorem parts (marks : outbox.MarkedUpTo count) :
    outbox.marked = outbox.entries.take count ∧
      outbox.unpublished = outbox.entries.drop count := by
  have front : ∀ entry ∈ outbox.entries.take count, entry.published = true := by
    intro entry member
    obtain ⟨index, present⟩ := List.mem_iff_getElem?.mp member
    rw [List.getElem?_take] at present
    split at present
    · rename_i inside
      exact (marks.place index entry present).2.mpr inside
    · cases present
  have back : ∀ entry ∈ outbox.entries.drop count, ¬ entry.published = true := by
    intro entry member
    obtain ⟨index, present⟩ := List.mem_iff_getElem?.mp member
    rw [List.getElem?_drop] at present
    rw [(marks.place _ entry present).2]
    omega
  have shape (keeps : OutboxEntry → Bool) : outbox.entries.filter keeps =
      (outbox.entries.take count).filter keeps ++ (outbox.entries.drop count).filter keeps := by
    rw [← List.filter_append, List.take_append_drop]
  constructor
  · rw [marked, shape, List.filter_eq_self.mpr front, List.filter_eq_nil_iff.mpr back,
      List.append_nil]
  · rw [unpublished, shape, List.filter_eq_nil_iff.mpr (by simpa using front),
      List.filter_eq_self.mpr (by simpa using back), List.nil_append]

theorem length_marked (marks : outbox.MarkedUpTo count) : outbox.marked.length = count := by
  rw [marks.parts.1, List.length_take]
  exact Nat.min_eq_left marks.within

theorem first (marks : outbox.MarkedUpTo count) {entry : OutboxEntry}
    {rest : List OutboxEntry} (waiting : entry :: rest <+: outbox.unpublished) :
    outbox.entries[count]? = some entry ∧ entry.id = count + 1 := by
  obtain ⟨more, shape⟩ := waiting
  have present : outbox.unpublished[0]? = some entry := by
    rw [← shape]
    rfl
  rw [marks.parts.2, List.getElem?_drop] at present
  exact ⟨present, (marks.place _ entry present).1⟩

theorem markPublished (marks : outbox.MarkedUpTo count)
    (waiting : count < outbox.entries.length) :
    (outbox.markPublished (count + 1)).MarkedUpTo (count + 1) where
  within := by
    rw [Outbox.markPublished, List.length_map]
    exact waiting
  place index entry present := by
    simp only [Outbox.markPublished, List.getElem?_map] at present
    obtain ⟨held, heldPresent, shape⟩ := Option.map_eq_some_iff.mp present
    obtain ⟨numbered, marked⟩ := marks.place index held heldPresent
    rw [← shape]
    split
    · exact ⟨numbered, by simp; omega⟩
    · rename_i other
      refine ⟨numbered, marked.trans ?_⟩
      omega

theorem unpublished_markPublished (marks : outbox.MarkedUpTo count)
    (waiting : count < outbox.entries.length) :
    (outbox.markPublished (count + 1)).unpublished = outbox.entries.drop (count + 1) := by
  rw [(marks.markPublished waiting).parts.2, Outbox.markPublished, ← List.map_drop]
  refine (List.map_congr_left fun entry member => ?_).trans (List.map_id _)
  obtain ⟨index, present⟩ := List.mem_iff_getElem?.mp member
  rw [List.getElem?_drop] at present
  have numbered := (marks.place _ entry present).1
  rw [if_neg (by omega)]
  rfl

theorem unpublished_eq_cons (marks : outbox.MarkedUpTo count) {entry : OutboxEntry}
    {rest : List OutboxEntry} (waiting : entry :: rest <+: outbox.unpublished) :
    outbox.unpublished = entry :: (outbox.markPublished entry.id).unpublished := by
  obtain ⟨present, numbered⟩ := marks.first waiting
  obtain ⟨inside, shape⟩ := List.getElem?_eq_some_iff.mp present
  rw [numbered, marks.unpublished_markPublished inside, marks.parts.2,
    List.drop_eq_getElem_cons inside, shape]

theorem waiting_markPublished (marks : outbox.MarkedUpTo count) {entry : OutboxEntry}
    {rest : List OutboxEntry} (waiting : entry :: rest <+: outbox.unpublished) :
    rest <+: (outbox.markPublished entry.id).unpublished := by
  have front := waiting
  rw [marks.unpublished_eq_cons waiting] at front
  exact (List.cons_prefix_cons.mp front).2

end MarkedUpTo

@[simp]
theorem unpublished_push (outbox : Outbox) (message : OutboundMessage) :
    (outbox.push message).2.unpublished = outbox.unpublished ++
      [{ id := outbox.entries.length + 1, message := message, published := false }] := by
  simp [unpublished, push]

end Outbox

end Clearing
