import Clearing.Table
import Mathlib.Algebra.BigOperators.Group.List.Basic
import Mathlib.Data.List.Forall2
import Mathlib.Data.Set.Card
import Mathlib.Tactic.Abel
/-!
Tables under writes: which keys and values there are, and what a sum over all values
becomes when one value is replaced.
-/

namespace Clearing

theorem found?_isSome_iff_mem {Key Value : Type} [DecidableEq Key]
    (key : Key) (entries : List (Key × Value)) :
    (found? key entries).isSome ↔ key ∈ entries.map Prod.fst := by
  induction entries with
  | nil => simp [found?]
  | cons entry rest inductionHypothesis =>
      by_cases same : entry.1 = key
      · simp [found?, same]
      · simp only [found?, same, if_false, inductionHypothesis, List.map_cons,
          List.mem_cons, Ne.symm same, false_or]

theorem found?_eq_some_iff_mem {Key Value : Type} [DecidableEq Key]
    {entries : List (Key × Value)} (distinct : (entries.map Prod.fst).Nodup)
    (key : Key) (value : Value) :
    found? key entries = some value ↔ (key, value) ∈ entries := by
  induction entries with
  | nil => simp [found?]
  | cons entry rest inductionHypothesis =>
      rw [List.map_cons, List.nodup_cons] at distinct
      rcases entry with ⟨other, held⟩
      by_cases same : other = key
      · subst same
        have absent : (other, value) ∉ rest := fun member =>
          distinct.1 (List.mem_map.mpr ⟨_, member, rfl⟩)
        simp [found?, absent, eq_comm]
      · simp [found?, same, Ne.symm same, inductionHypothesis distinct.2]

theorem sum_placed {Key Value Total : Type} [DecidableEq Key] [AddCommGroup Total]
    (measure : Value → Total) {key : Key} {held value : Value}
    {entries : List (Key × Value)} (found : found? key entries = some held) :
    ((placed key value entries).map fun entry => measure entry.2).sum =
      (entries.map fun entry => measure entry.2).sum - measure held +
        measure value := by
  induction entries with
  | nil => simp [found?] at found
  | cons entry rest inductionHypothesis =>
      by_cases same : entry.1 = key
      · simp only [found?, same, if_true, Option.some.injEq] at found
        simp only [placed, same, if_true, List.map_cons, List.sum_cons, ← found]
        abel
      · simp only [found?, same, if_false] at found
        simp only [placed, same, if_false, List.map_cons, List.sum_cons,
          inductionHypothesis found]
        abel

theorem placed_of_found?_eq_none {Key Value : Type} [DecidableEq Key] {key : Key}
    (value : Value) {entries : List (Key × Value)} (fresh : found? key entries = none) :
    placed key value entries = entries ++ [(key, value)] := by
  induction entries with
  | nil => rfl
  | cons entry rest inductionHypothesis =>
      unfold found? at fresh
      split at fresh
      · cases fresh
      · rename_i different
        rw [placed, if_neg different, inductionHypothesis fresh, List.cons_append]

theorem forall₂_placed {Key Value Other : Type} [DecidableEq Key]
    {Related : Value → Other → Prop} {key : Key} {held value : Value}
    {entries : List (Key × Value)} {others : List Other}
    (found : found? key entries = some held)
    (kept : ∀ other, Related held other → Related value other)
    (related : List.Forall₂ Related (entries.map Prod.snd) others) :
    List.Forall₂ Related ((placed key value entries).map Prod.snd) others := by
  induction entries generalizing others with
  | nil => cases found
  | cons entry rest inductionHypothesis =>
      cases related with
      | cons first tail =>
          unfold found? at found
          unfold placed
          split at found
          · rename_i same
            cases found
            rw [if_pos same]
            exact .cons (kept _ first) tail
          · rename_i different
            rw [if_neg different]
            exact .cons first (inductionHypothesis found tail)

namespace Table

theorem size_sub_size_filter {Key Value : Type} (table : Table Key Value)
    (keep : Key → Value → Bool) :
    table.size - (table.filter keep).size =
      (table.filter fun key value => !keep key value).size := by
  have split := List.length_eq_length_filter_add (l := table.entries)
    fun entry => keep entry.1 entry.2
  simp only [size, filter]
  omega

variable {Key Value : Type} [DecidableEq Key]

theorem get?_insert_eq_some_iff {table : Table Key Value} {key : Key}
    (fresh : table.get? key = none) (value : Value) (other : Key) (held : Value) :
    (table.insert key value).get? other = some held ↔
      table.get? other = some held ∨ key = other ∧ value = held := by
  rw [get?_insert]
  by_cases same : other = key
  · subst same
    simp [fresh]
  · simp [same, Ne.symm same]

theorem mem_keys_iff (table : Table Key Value) (key : Key) :
    key ∈ table.keys ↔ (table.get? key).isSome :=
  (found?_isSome_iff_mem key table.entries).symm

theorem mem_entries_iff (table : Table Key Value) (key : Key) (value : Value) :
    (key, value) ∈ table.entries ↔ table.get? key = some value :=
  (found?_eq_some_iff_mem table.distinct key value).symm

theorem mem_values_iff (table : Table Key Value) (value : Value) :
    value ∈ table.values ↔ ∃ key, table.get? key = some value := by
  simp only [values, List.mem_map, Prod.exists, mem_entries_iff]
  constructor
  · rintro ⟨key, held, found, rfl⟩
    exact ⟨key, found⟩
  · rintro ⟨key, found⟩
    exact ⟨key, value, found, rfl⟩

theorem get?_of_get?_filter {table : Table Key Value} {keep : Key → Value → Bool}
    {key : Key} {value : Value} (found : (table.filter keep).get? key = some value) :
    table.get? key = some value := by
  rw [← mem_entries_iff] at found ⊢
  exact (List.mem_filter.mp found).1

theorem get?_filter_eq_some_iff (table : Table Key Value) (keep : Key → Value → Bool)
    (key : Key) (value : Value) :
    (table.filter keep).get? key = some value ↔
      table.get? key = some value ∧ keep key value = true := by
  rw [← mem_entries_iff, ← mem_entries_iff]
  exact List.mem_filter

theorem get?_erase (table : Table Key Value) (key other : Key) :
    (table.erase key).get? other = if other = key then none else table.get? other := by
  apply Option.ext
  intro value
  rw [erase, get?_filter_eq_some_iff]
  by_cases same : other = key <;> simp [same]

theorem size_eq_ncard (table : Table Key Value) :
    table.size = {key | (table.get? key).isSome}.ncard := by
  have stored : {key | (table.get? key).isSome} = (table.keys.toFinset : Set Key) := by
    ext key
    simp [mem_keys_iff]
  rw [stored, Set.ncard_coe_finset, keys, List.toFinset_card_of_nodup table.distinct,
    List.length_map, size]

theorem keys_insert_of_get? {table : Table Key Value} {key : Key}
    {held : Value} (found : table.get? key = some held) (value : Value) :
    (table.insert key value).keys = table.keys := by
  have present : key ∈ table.entries.map Prod.fst :=
    (mem_keys_iff table key).mpr (by simp [found])
  exact (map_fst_placed key value table.entries).trans (if_pos present)

theorem values_insert_of_get?_eq_none {table : Table Key Value} {key : Key}
    (fresh : table.get? key = none) (value : Value) :
    (table.insert key value).values = table.values ++ [value] := by
  simp only [values, insert, placed_of_found?_eq_none value fresh, List.map_append,
    List.map_singleton]

theorem sum_insert_of_get? {Total : Type} [AddCommGroup Total]
    (measure : Value → Total) {table : Table Key Value} {key : Key}
    {held : Value} (found : table.get? key = some held) (value : Value) :
    ((table.insert key value).values.map measure).sum =
      (table.values.map measure).sum - measure held + measure value := by
  simp only [values, insert, List.map_map]
  exact sum_placed measure found

end Table

end Clearing
