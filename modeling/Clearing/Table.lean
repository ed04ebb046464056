/-!
Finite tables.  A table holds a value for each of finitely many keys, in the
order in which the keys first arrived.  Writing a key that is present changes
its value and leaves it in its place.
-/

namespace Clearing

/-- Replace the value of a key where it stands, or put the pair at the end. -/
def placed {Key Value : Type} [DecidableEq Key] (key : Key) (value : Value) :
    List (Key × Value) → List (Key × Value)
  | [] => [(key, value)]
  | entry :: rest =>
      if entry.1 = key then
        (key, value) :: rest
      else
        entry :: placed key value rest

/-- The value of the first pair that has the key. -/
def found? {Key Value : Type} [DecidableEq Key] (key : Key) :
    List (Key × Value) → Option Value
  | [] => none
  | entry :: rest => if entry.1 = key then some entry.2 else found? key rest

/-- Placing a key adds it at the end of the keys, unless it was there. -/
theorem map_fst_placed {Key Value : Type} [DecidableEq Key] (key : Key)
    (value : Value) (entries : List (Key × Value)) :
    (placed key value entries).map Prod.fst =
      if key ∈ entries.map Prod.fst then
        entries.map Prod.fst
      else
        entries.map Prod.fst ++ [key] := by
  induction entries with
  | nil => simp [placed]
  | cons entry rest inductionHypothesis =>
      by_cases same : entry.1 = key
      · simp [placed, same]
      · simp only [placed, same, if_false, List.map_cons, inductionHypothesis,
          List.mem_cons, Ne.symm same, false_or]
        split <;> simp

theorem nodup_map_fst_placed {Key Value : Type} [DecidableEq Key] {key : Key}
    {value : Value} {entries : List (Key × Value)}
    (distinct : (entries.map Prod.fst).Nodup) :
    ((placed key value entries).map Prod.fst).Nodup := by
  rw [map_fst_placed]
  split
  · exact distinct
  · rename_i absent
    rw [List.nodup_append]
    refine ⟨distinct, by simp, fun held member new equal => ?_⟩
    simp only [List.mem_singleton] at equal
    subst equal
    intro same
    exact absent (same ▸ member)

/-- Pairs of keys and values without two pairs of one key. -/
structure Table (Key Value : Type) where
  entries : List (Key × Value)
  distinct : (entries.map Prod.fst).Nodup

namespace Table

variable {Key Value : Type} [DecidableEq Key]

def empty : Table Key Value where
  entries := []
  distinct := List.nodup_nil

instance : Inhabited (Table Key Value) := ⟨empty⟩

/-- The keys in the order of their arrival. -/
def keys (table : Table Key Value) : List Key :=
  table.entries.map Prod.fst

/-- The values in the order in which their keys arrived. -/
def values (table : Table Key Value) : List Value :=
  table.entries.map Prod.snd

def size (table : Table Key Value) : Nat :=
  table.entries.length

/-- The value of a key, if the table has the key. -/
def get? (table : Table Key Value) (key : Key) : Option Value :=
  found? key table.entries

def insert (table : Table Key Value) (key : Key) (value : Value) :
    Table Key Value where
  entries := placed key value table.entries
  distinct := nodup_map_fst_placed table.distinct

/-- Keep the pairs that pass a test. -/
def filter (table : Table Key Value) (keep : Key → Value → Bool) :
    Table Key Value where
  entries := table.entries.filter fun entry => keep entry.1 entry.2
  distinct := table.distinct.sublist (List.filter_sublist.map _)

def erase (table : Table Key Value) (key : Key) : Table Key Value :=
  table.filter fun other _ => other ≠ key

@[simp]
theorem get?_empty (key : Key) : (empty : Table Key Value).get? key = none :=
  rfl

/-- Writing a key changes what that key reads, and nothing else. -/
theorem get?_insert (table : Table Key Value) (key other : Key) (value : Value) :
    (table.insert key value).get? other =
      if other = key then some value else table.get? other := by
  simp only [get?, insert]
  induction table.entries with
  | nil => simp [placed, found?, eq_comm]
  | cons entry rest inductionHypothesis =>
      by_cases same : entry.1 = key
      · by_cases asked : other = key
        · simp [placed, found?, same, asked]
        · simp [placed, found?, same, asked, Ne.symm asked]
      · by_cases asked : entry.1 = other
        · have different : other ≠ key := asked ▸ same
          simp [placed, found?, asked, different]
        · simp [placed, found?, same, asked, inductionHypothesis]

end Table

end Clearing
