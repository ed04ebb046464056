import Clearing.Json.Record
/-!
Two readers that take the same bytes.  Where the first one reads a value, so does
the second one, and the two values are related.  Records whose fields are read in
such pairs are such a pair themselves.
-/

namespace Clearing.Json

/-- Where one reader takes a value, another takes the same bytes to a related one. -/
def Follows {First Second : Type} (Related : First → Second → Prop)
    (first : Reader First) (second : Reader Second) : Prop :=
  ∀ bytes value rest, first bytes = .ok (value, rest) →
    ∃ other, second bytes = .ok (other, rest) ∧ Related value other

theorem read_bind_eq_ok_iff {First Second : Type} (first : Reader First)
    (next : First → Reader Second) (bytes rest : Bytes) (result : Second) :
    (first >>= next) bytes = .ok (result, rest) ↔
      ∃ value middle, first bytes = .ok (value, middle) ∧
        next value middle = .ok (result, rest) := by
  change (first bytes >>= fun read => next read.1 read.2) = _ ↔ _
  rcases first bytes with fault | ⟨value, middle⟩
  · simp [bind, Except.bind]
  · constructor
    · intro read
      exact ⟨value, middle, rfl, read⟩
    · rintro ⟨_, _, same, read⟩
      cases same
      exact read

namespace Follows

variable {First Second Third Fourth : Type} {Related : First → Second → Prop}
  {Others : Third → Fourth → Prop}

theorem refl (reader : Reader First) : Follows Eq reader reader := by
  intro bytes value rest read
  exact ⟨value, read, rfl⟩

theorem pure {value : First} {other : Second} (related : Related value other) :
    Follows Related (Pure.pure value : Reader First) (Pure.pure other : Reader Second) := by
  intro bytes result rest read
  cases read
  exact ⟨other, rfl, related⟩

theorem throw (fault : Fault) (second : Reader Second) :
    Follows Related (MonadExcept.throw fault : Reader First) second := by
  intro bytes value rest read
  cases read

theorem bind {first : Reader First} {second : Reader Second}
    (follows : Follows Related first second) {next : First → Reader Third}
    {then' : Second → Reader Fourth}
    (continued : ∀ value other, Related value other →
      Follows Others (next value) (then' other)) :
    Follows Others (first >>= next) (second >>= then') := by
  intro bytes result rest read
  obtain ⟨value, middle, valueRead, resultRead⟩ :=
    (read_bind_eq_ok_iff _ _ _ _ _).mp read
  obtain ⟨other, otherRead, related⟩ := follows bytes value middle valueRead
  obtain ⟨last, lastRead, lastRelated⟩ :=
    continued value other related middle result rest resultRead
  exact ⟨last, (read_bind_eq_ok_iff _ _ _ _ _).mpr ⟨other, middle, otherRead, lastRead⟩,
    lastRelated⟩

theorem after (first : Reader First) {next : First → Reader Third}
    {then' : First → Reader Fourth}
    (continued : ∀ value, Follows Others (next value) (then' value)) :
    Follows Others (first >>= next) (first >>= then') := by
  apply (refl first).bind
  rintro value _ rfl
  exact continued value

theorem ite {condition : Prop} [Decidable condition] {first third : Reader First}
    {second fourth : Reader Second} (yes : Follows Related first second)
    (no : Follows Related third fourth) :
    Follows Related (if condition then first else third)
      (if condition then second else fourth) := by
  split
  · exact yes
  · exact no

theorem refusing {condition : Prop} [Decidable condition] {Nothing : Type} {fault : Fault}
    {next : Nothing → Reader First} {then' : Nothing → Reader Second}
    {first : Reader First} {second : Reader Second} (follows : Follows Related first second) :
    Follows Related
      (if condition then (MonadExcept.throw fault : Reader Nothing) >>= next else first)
      (if condition then (MonadExcept.throw fault : Reader Nothing) >>= then' else second) := by
  apply Follows.ite
  · exact .throw fault _
  · exact follows

end Follows

/-- Two ways of reading a field, the second of which follows the first. -/
structure FieldPair where
  name : String
  First : Type
  Second : Type
  first : Reader First
  second : Reader Second
  Related : First → Second → Prop
  follows : Follows Related first second

namespace FieldPair

def left (pair : FieldPair) : Field := ⟨pair.name, pair.First, pair.first⟩

def right (pair : FieldPair) : Field := ⟨pair.name, pair.Second, pair.second⟩

/-- A field that is read the same way twice. -/
def same (field : Field) : FieldPair where
  name := field.name
  First := field.Carrier
  Second := field.Carrier
  first := field.read
  second := field.read
  Related := Eq
  follows := .refl field.read

def RowsRelated :
    (pairs : List FieldPair) → Row (pairs.map left) → Row (pairs.map right) → Prop
  | [], _, _ => True
  | pair :: rest, first, second =>
      pair.Related first.1 second.1 ∧ RowsRelated rest first.2 second.2

def SlotsRelated :
    (pairs : List FieldPair) → Slots (pairs.map left) → Slots (pairs.map right) → Prop
  | [], _, _ => True
  | pair :: rest, first, second =>
      Option.Rel pair.Related first.1 second.1 ∧ SlotsRelated rest first.2 second.2

theorem slotsRelated_empty (pairs : List FieldPair) :
    SlotsRelated pairs (Slots.empty _) (Slots.empty _) := by
  induction pairs with
  | nil => exact trivial
  | cons pair rest inductionHypothesis => exact ⟨.none, inductionHypothesis⟩

theorem rowsRelated_row? {pairs : List FieldPair} {first : Slots (pairs.map left)}
    {second : Slots (pairs.map right)} (related : SlotsRelated pairs first second)
    {row : Row (pairs.map left)} (filled : first.row? = some row) :
    ∃ other, second.row? = some other ∧ RowsRelated pairs row other := by
  induction pairs with
  | nil => exact ⟨(), rfl, trivial⟩
  | cons pair rest inductionHypothesis =>
      obtain ⟨value, others⟩ := first
      obtain ⟨otherValue, otherOthers⟩ := second
      obtain ⟨same, behind⟩ := related
      cases same with
      | none => cases filled
      | @some read other held =>
          change ((Slots.row? _ others).bind fun values =>
            Option.some ((read, values) : Row ((pair :: rest).map left))) = _ at filled
          obtain ⟨values, valuesFilled, shape⟩ := Option.bind_eq_some_iff.mp filled
          cases shape
          obtain ⟨otherValues, otherFilled, rows⟩ :=
            inductionHypothesis behind valuesFilled
          refine ⟨(other, otherValues), ?_, held, rows⟩
          change ((Slots.row? _ otherOthers).bind fun values =>
            Option.some ((other, values) : Row ((pair :: rest).map right))) = _
          rw [otherFilled]
          rfl

theorem follows_readMember (name : String) {pairs : List FieldPair}
    {first : Slots (pairs.map left)} {second : Slots (pairs.map right)}
    (related : SlotsRelated pairs first second) :
    Follows (SlotsRelated pairs) (readMember name _ first) (readMember name _ second) := by
  induction pairs with
  | nil =>
      intro bytes value rest read
      exact ⟨value, read, trivial⟩
  | cons pair rest inductionHypothesis =>
      obtain ⟨value, others⟩ := first
      obtain ⟨otherValue, otherOthers⟩ := second
      obtain ⟨same, behind⟩ := related
      apply Follows.ite
      · cases same with
        | some held => exact .throw .mismatched _
        | none =>
            apply Follows.after
            intro _
            apply pair.follows.bind
            intro read other held
            exact .pure ⟨.some held, behind⟩
      · apply (inductionHypothesis behind).bind
        intro read other held
        exact .pure ⟨same, held⟩

theorem follows_readMembers (fuel : Nat) {pairs : List FieldPair}
    {first : Slots (pairs.map left)} {second : Slots (pairs.map right)}
    (related : SlotsRelated pairs first second) :
    Follows (SlotsRelated pairs) (readMembers _ fuel first) (readMembers _ fuel second) := by
  induction fuel generalizing first second with
  | zero => exact .throw .truncated _
  | succ fuel inductionHypothesis =>
      unfold readMembers
      apply Follows.after
      intro quote
      apply Follows.refusing
      apply Follows.after
      intro _
      apply Follows.after
      intro name
      apply (follows_readMember name related).bind
      intro filled otherFilled held
      apply Follows.after
      intro mark
      apply Follows.ite
      · apply Follows.after
        intro _
        exact inductionHypothesis held
      · apply Follows.ite
        · exact .pure held
        · exact .throw .malformed _

def readEnd {fields : List Field} (slots : Slots fields) : Reader (Row fields) :=
  match slots.row? with
  | none => throw .mismatched
  | some row => do
      advance
      return row

theorem follows_readEnd {pairs : List FieldPair} {first : Slots (pairs.map left)}
    {second : Slots (pairs.map right)} (related : SlotsRelated pairs first second) :
    Follows (RowsRelated pairs) (readEnd first) (readEnd second) := by
  unfold readEnd
  cases filled : first.row? with
  | none => exact .throw .mismatched _
  | some row =>
      obtain ⟨other, otherFilled, rows⟩ := rowsRelated_row? related filled
      rw [otherFilled]
      apply Follows.after
      intro _
      exact .pure rows

theorem follows_readObject (pairs : List FieldPair) :
    Follows (RowsRelated pairs) (readObject (pairs.map left))
      (readObject (pairs.map right)) := by
  unfold readObject
  apply Follows.after
  intro mark
  apply Follows.ite
  · apply (Follows.pure (slotsRelated_empty pairs)).bind
    intro first second related
    exact follows_readEnd related
  · have members : Follows (SlotsRelated pairs)
        (fun bytes => readMembers _ (bytes.length + 1) (.empty _) bytes)
        (fun bytes => readMembers _ (bytes.length + 1) (.empty _) bytes) := by
      intro bytes
      exact follows_readMembers (bytes.length + 1) (slotsRelated_empty pairs) bytes
    apply members.bind
    intro first second related
    exact follows_readEnd related

theorem follows_readElements (pairs : List FieldPair) (atStart : Bool) :
    Follows (RowsRelated pairs) (readElements (pairs.map left) atStart)
      (readElements (pairs.map right) atStart) := by
  induction pairs generalizing atStart with
  | nil => exact .pure trivial
  | cons pair rest inductionHypothesis =>
      have elements : Follows (RowsRelated (pair :: rest))
          (do
            let value ← pair.first
            let others ← readElements (rest.map left) false
            return ((value, others) : Row ((pair :: rest).map left)))
          (do
            let value ← pair.second
            let others ← readElements (rest.map right) false
            return ((value, others) : Row ((pair :: rest).map right))) := by
        apply pair.follows.bind
        intro value other held
        apply (inductionHypothesis false).bind
        intro values otherValues behind
        exact .pure ⟨held, behind⟩
      change Follows _ (readElements (pair.left :: rest.map left) atStart)
        (readElements (pair.right :: rest.map right) atStart)
      unfold readElements
      apply Follows.after
      intro mark
      apply Follows.refusing
      apply Follows.ite
      · apply Follows.refusing
        apply Follows.after
        intro _
        apply Follows.after
        intro next
        apply Follows.refusing
        exact elements
      · exact elements

theorem follows_readList (pairs : List FieldPair) :
    Follows (RowsRelated pairs) (readList (pairs.map left)) (readList (pairs.map right)) := by
  apply (follows_readElements pairs true).bind
  intro row other rows
  apply Follows.after
  intro mark
  apply Follows.refusing
  apply Follows.after
  intro _
  exact .pure rows

end FieldPair

/-- Whatever text a reader takes, its value is a lawful one. -/
def Yields {Value : Type} (reader : Reader Value) (Lawful : Value → Prop) : Prop :=
  ∀ bytes value rest, reader bytes = .ok (value, rest) → Lawful value

/-- A field of which only lawful values are read. -/
def FieldPair.lawful (name : String) {Value : Type} {reader : Reader Value}
    {Lawful : Value → Prop} (yields : Yields reader Lawful) : FieldPair where
  name := name
  First := Value
  Second := Value
  first := reader
  second := reader
  Related value _ := Lawful value
  follows bytes value rest read := ⟨value, read, yields bytes value rest read⟩

def Refuses {Value : Type} (reader : Reader Value) : Prop :=
  ∀ bytes result, reader bytes ≠ .ok result

theorem Refuses.throw {Value : Type} (fault : Fault) :
    Refuses (MonadExcept.throw fault : Reader Value) := by
  intro bytes result read
  cases read

theorem Refuses.after {First Second : Type} (first : Reader First)
    {next : First → Reader Second} (refuses : ∀ value, Refuses (next value)) :
    Refuses (first >>= next) := by
  rintro bytes ⟨result, rest⟩ read
  obtain ⟨value, middle, _, later⟩ := (read_bind_eq_ok_iff _ _ _ _ _).mp read
  exact refuses value middle _ later

theorem Refuses.ite {Value : Type} {condition : Prop} [Decidable condition]
    {first second : Reader Value} (yes : Refuses first) (no : Refuses second) :
    Refuses (if condition then first else second) := by
  split
  · exact yes
  · exact no

theorem refuses_mismatch {Value : Type} : Refuses (mismatch : Reader Value) := by
  have last {Nothing : Type} (read : Reader Nothing) :
      Refuses (do
        let _ ← read
        (throw .mismatched : Reader Value)) :=
    .after read fun _ => .throw .mismatched
  unfold mismatch
  apply Refuses.after
  intro mark
  apply Refuses.ite
  · exact .after advance fun _ => last (word ['u', 'l', 'l'])
  · apply Refuses.ite
    · exact .after advance fun _ => last (word ['r', 'u', 'e'])
    · apply Refuses.ite
      · exact .after advance fun _ => last (word ['a', 'l', 's', 'e'])
      · apply Refuses.ite
        · exact last (discard number)
        · apply Refuses.ite
          · exact .after advance fun _ => last (discard stringRest)
          · apply Refuses.ite
            · exact last (throw .malformed)
            · exact .throw .mismatched

theorem Follows.mismatch {First Second : Type} {Related : First → Second → Prop}
    (second : Reader Second) : Follows Related mismatch second := by
  intro bytes value rest read
  exact absurd read (refuses_mismatch bytes _)

theorem follows_record (pairs : List FieldPair) :
    Follows (FieldPair.RowsRelated pairs) (record (pairs.map FieldPair.left))
      (record (pairs.map FieldPair.right)) := by
  unfold record
  apply Follows.after
  intro mark
  apply Follows.ite
  · apply Follows.after
    intro _
    exact FieldPair.follows_readObject pairs
  · apply Follows.ite
    · apply Follows.after
      intro _
      exact FieldPair.follows_readList pairs
    · exact .mismatch _

theorem Follows.decode_eq_ok {First Second : Type} {Related : First → Second → Prop}
    {first : Reader First} {second : Reader Second} (follows : Follows Related first second)
    {bytes : Bytes} {value : First} (decoded : decode first bytes = .ok value) :
    ∃ other, decode second bytes = .ok other ∧ Related value other := by
  unfold decode at decoded ⊢
  cases read : first bytes with
  | error fault =>
      rw [read] at decoded
      cases decoded
  | ok result =>
      obtain ⟨taken, rest⟩ := result
      obtain ⟨other, otherRead, related⟩ := follows bytes taken rest read
      rw [read] at decoded
      rw [otherRead]
      change (if skipSpace rest = [] then Except.ok taken else .error Fault.malformed) = _
        at decoded
      change ∃ result,
        (if skipSpace rest = [] then Except.ok other else .error Fault.malformed) = .ok result ∧
          Related value result
      split at decoded
      · rename_i ends
        cases decoded
        rw [if_pos ends]
        exact ⟨other, rfl, related⟩
      · cases decoded

end Clearing.Json
