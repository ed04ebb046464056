import Clearing.Proofs.Json.Strings
/-!
Records in JSON are read back from the object that holds their fields in the
order of declaration.
-/

namespace Clearing.Json

theorem advance_cons (byte : UInt8) (rest : Bytes) :
    advance (byte :: rest) = .ok ((), rest) :=
  rfl

theorem colon_cons (rest : Bytes) : colon (ascii ':' :: rest) = .ok ((), rest) :=
  rfl

/-- Members that carry the values of a row, each readable as its field. -/
inductive Written : (fields : List Field) → Row fields →
    List (String × Bytes) → Prop where
  | nil : Written [] () []
  | cons {field : Field} {fields : List Field} {value : field.Carrier}
      {row : Row fields} {bytes : Bytes} {members : List (String × Bytes)} :
      Reads field.read bytes value →
      Written fields row members →
      Written (field :: fields) (value, row) ((field.name, bytes) :: members)

/-- The first values of a row, the others still missing. -/
def Slots.upTo : (fields : List Field) → Row fields → Nat → Slots fields
  | [], _, _ => ()
  | _ :: rest, _, 0 => (none, Slots.empty rest)
  | _ :: rest, row, count + 1 => (some row.1, upTo rest row.2 count)

theorem Slots.upTo_zero (fields : List Field) (row : Row fields) :
    Slots.upTo fields row 0 = Slots.empty fields := by
  cases fields <;> rfl

theorem Slots.row?_upTo (fields : List Field) (row : Row fields) :
    Slots.row? fields (Slots.upTo fields row fields.length) = some row := by
  induction fields with
  | nil => rfl
  | cons field fields inductionHypothesis =>
      simp only [Slots.row?, Slots.upTo, List.length_cons,
        inductionHypothesis row.2]
      rfl

theorem Written.length_eq {fields : List Field} {row : Row fields}
    {members : List (String × Bytes)} (written : Written fields row members) :
    members.length = fields.length := by
  induction written with
  | nil => rfl
  | cons read written inductionHypothesis => simp [inductionHypothesis]

theorem Written.map_fst {fields : List Field} {row : Row fields}
    {members : List (String × Bytes)} (written : Written fields row members) :
    members.map Prod.fst = fields.map Field.name := by
  induction written with
  | nil => rfl
  | cons read written inductionHypothesis => simp [inductionHypothesis]

theorem readMember_same (field : Field) (fields : List Field)
    (slots : Slots fields) :
    readMember field.name (field :: fields) (none, slots) =
      (do colon
          let value ← field.read
          return ((some value, slots) : Slots (field :: fields))) :=
  if_pos rfl

theorem readMember_other {name : String} {field : Field}
    (different : field.name ≠ name) (fields : List Field)
    (slots : Slots (field :: fields)) :
    readMember name (field :: fields) slots =
      (do let others ← readMember name fields slots.2
          return ((slots.1, others) : Slots (field :: fields))) :=
  if_neg different

/-- What stands behind the next name fills the next slot. -/
theorem readMember_upTo {fields : List Field} {row : Row fields}
    {members : List (String × Bytes)} (written : Written fields row members)
    (distinct : (fields.map Field.name).Nodup)
    {count : Nat} {name : String} {bytes : Bytes}
    (next : members[count]? = some (name, bytes)) (rest : Bytes) :
    readMember name fields (Slots.upTo fields row count)
        (ascii ':' :: (bytes ++ rest)) =
      .ok (Slots.upTo fields row (count + 1), rest) := by
  induction written generalizing count with
  | nil => simp at next
  | @cons field fields value row written members read others inductionHypothesis =>
      rw [List.map_cons, List.nodup_cons] at distinct
      cases count with
      | zero =>
          simp only [List.getElem?_cons_zero, Option.some.injEq,
            Prod.mk.injEq] at next
          obtain ⟨rfl, rfl⟩ := next
          change readMember field.name (field :: fields)
            (none, Slots.empty fields) _ =
              .ok ((some value, Slots.upTo fields row 0), rest)
          rw [readMember_same, bind_eq_of_ok (colon_cons _),
            bind_eq_of_ok (read rest), Slots.upTo_zero]
          rfl
      | succ count =>
          rw [List.getElem?_cons_succ] at next
          have member : name ∈ fields.map Field.name := by
            rw [← others.map_fst]
            exact List.mem_map.mpr ⟨_, List.mem_of_getElem? next, rfl⟩
          have different : field.name ≠ name := fun same =>
            distinct.1 (same ▸ member)
          rw [readMember_other different]
          exact bind_eq_of_ok (inductionHypothesis distinct.2 next)

/-- A name with its value, and the mark behind it that has been seen. -/
theorem readMembers_step {fields : List Field} {row : Row fields}
    {members : List (String × Bytes)} (written : Written fields row members)
    (distinct : (fields.map Field.name).Nodup)
    {count : Nat} {name : String} {bytes : Bytes}
    (next : members[count]? = some (name, bytes))
    {mark : UInt8} (solid : isSpace mark = false) (fuel : Nat) (rest : Bytes) :
    readMembers fields (fuel + 1) (Slots.upTo fields row count)
        (writeString name ++ ascii ':' :: (bytes ++ mark :: rest)) =
      (if mark = ascii ',' then do
          advance
          readMembers fields fuel (Slots.upTo fields row (count + 1))
        else if mark = ascii '\x7d' then
          return Slots.upTo fields row (count + 1)
        else
          throw .malformed : Reader (Slots fields)) (mark :: rest) := by
  rw [writeString, List.cons_append, List.cons_append, readMembers,
    bind_eq_of_ok (peek_cons (by decide) _)]
  have name_read := reads_stringRest name (ascii ':' :: (bytes ++ mark :: rest))
  rw [if_neg (not_not_intro rfl)]
  beta_reduce
  rw [bind_eq_of_ok (advance_cons _ _), bind_eq_of_ok name_read,
    bind_eq_of_ok (readMember_upTo written distinct next (mark :: rest)),
    bind_eq_of_ok (peek_cons solid rest)]

/-- From any member on, the rest of the object fills the rest of the slots. -/
theorem readMembers_upTo {fields : List Field} {row : Row fields}
    {members : List (String × Bytes)} (written : Written fields row members)
    (distinct : (fields.map Field.name).Nodup)
    {fuel count : Nat} (started : count < members.length)
    (enough : members.length ≤ count + fuel) (rest : Bytes) :
    readMembers fields fuel (Slots.upTo fields row count)
        (writeMembers (members.drop count) ++ ascii '\x7d' :: rest) =
      .ok (Slots.upTo fields row fields.length, ascii '\x7d' :: rest) := by
  induction fuel generalizing count with
  | zero => omega
  | succ fuel inductionHypothesis =>
      rcases member : members[count] with ⟨name, bytes⟩
      have next : members[count]? = some (name, bytes) := by
        rw [List.getElem?_eq_getElem started, member]
      rw [List.drop_eq_getElem_cons started, member]
      by_cases last : count + 1 = members.length
      · have none : members.drop (count + 1) = [] := by
          rw [last, List.drop_length]
        rw [none, writeMembers, List.append_assoc, List.cons_append,
          readMembers_step written distinct next (by decide), if_neg (by decide),
          if_pos rfl, last, written.length_eq]
        rfl
      · have more : count + 1 < members.length := by omega
        have others := inductionHypothesis more (by omega)
        have behind : members.drop (count + 1) ≠ [] := by
          rw [Ne, List.drop_eq_nil_iff]
          omega
        rw [writeMembers.eq_3 _ _ _ behind]
        simp only [List.append_assoc, List.cons_append]
        rw [readMembers_step written distinct next (by decide), if_pos rfl,
          bind_eq_of_ok (advance_cons _ _)]
        exact others

theorem exists_writeMembers_eq_cons {members : List (String × Bytes)}
    (present : members ≠ []) :
    ∃ rest, writeMembers members = ascii '"' :: rest := by
  obtain ⟨⟨name, bytes⟩, others, rfl⟩ := List.exists_cons_of_ne_nil present
  cases others <;> exact ⟨_, rfl⟩

theorem length_le_length_writeMembers (members : List (String × Bytes)) :
    members.length ≤ (writeMembers members).length := by
  fun_induction writeMembers members with
  | case1 => exact Nat.le_refl 0
  | case2 name value =>
      simp only [List.length_cons, List.length_append, List.length_nil]
      omega
  | case3 name value rest others inductionHypothesis =>
      simp only [List.length_cons, List.length_append]
      omega

/-- The members of an object, of which the opening brace has been taken. -/
theorem reads_readObject {fields : List Field} {row : Row fields}
    {members : List (String × Bytes)} (written : Written fields row members)
    (distinct : (fields.map Field.name).Nodup) (present : members ≠ []) :
    Reads (readObject fields) (writeMembers members ++ [ascii '\x7d']) row := by
  intro rest
  obtain ⟨tail, shape⟩ := exists_writeMembers_eq_cons present
  have started : 0 < members.length := List.length_pos_iff.mpr present
  have filled (fuel : Nat) (enough : members.length ≤ fuel) :
      readMembers fields fuel (Slots.empty fields)
          (writeMembers members ++ ascii '\x7d' :: rest) =
        .ok (Slots.upTo fields row fields.length, ascii '\x7d' :: rest) := by
    have step := readMembers_upTo written distinct started
      (Nat.le_trans enough (Nat.le_add_left _ _)) rest
    rwa [Slots.upTo_zero, List.drop_zero] at step
  have seen : peek (writeMembers members ++ ascii '\x7d' :: rest) =
      .ok (ascii '"', writeMembers members ++ ascii '\x7d' :: rest) := by
    rw [shape]
    exact peek_cons (by decide) _
  have long := length_le_length_writeMembers members
  rw [List.append_assoc, List.singleton_append, readObject, bind_eq_of_ok seen]
  dsimp only
  rw [if_neg (by decide)]
  have all := filled
    ((writeMembers members ++ ascii '\x7d' :: rest).length + 1) (by
      rw [List.length_append]
      omega)
  refine (@bind_eq_of_ok _ _ (fun bytes =>
    readMembers fields (bytes.length + 1) (Slots.empty fields) bytes) _ _ _ _
    all).trans ?_
  rw [Slots.row?_upTo]
  rfl

theorem reads_record {fields : List Field} {row : Row fields}
    {members : List (String × Bytes)} (written : Written fields row members)
    (distinct : (fields.map Field.name).Nodup) (present : members ≠ []) :
    Reads (record fields) (writeObject members) row := by
  intro rest
  rw [writeObject, List.cons_append, List.cons_append, record,
    bind_eq_of_ok (peek_cons (by decide) _), if_pos rfl,
    bind_eq_of_ok (advance_cons _ _)]
  exact reads_readObject written distinct present rest

theorem decode_eq_ok_of_reads {Value : Type} {reader : Reader Value}
    {written : Bytes} {value : Value} (reads : Reads reader written value) :
    decode reader written = .ok value := by
  have read := reads []
  rw [List.append_nil] at read
  rw [decode, read]
  rfl

end Clearing.Json
