import Clearing.Cache.Store
import Clearing.Proofs.Table
import Clearing.Proofs.Timed
/-!
The store as a map that forgets in time.  What a reader is told of a key depends on the last
write of the key and on the clock, and on no read and no clean-up in between.
-/

namespace Clearing

namespace Store

variable (store : Store) (key other : String) (now : Nat)

theorem get_eq_some_iff (value : Bytes) :
    (store.get key now).1 = some value ↔
      ∃ entry, store.entries.get? key = some entry ∧ now < entry.expires ∧
        entry.value = value := by
  unfold get
  cases found : store.entries.get? key with
  | none => simp
  | some entry =>
      by_cases live : now < entry.expires <;> simp [live]

theorem get_of_lt {entry : StoreEntry} (found : store.entries.get? key = some entry)
    (live : now < entry.expires) : store.get key now = (some entry.value, store) := by
  rw [get, found]
  exact if_pos live

theorem entries_get_eq_some_iff (entry : StoreEntry) :
    (store.get key now).2.entries.get? other = some entry ↔
      store.entries.get? other = some entry ∧ (other = key → now < entry.expires) := by
  unfold get
  cases found : store.entries.get? key with
  | none =>
      refine (and_iff_left_of_imp fun held same => ?_).symm
      rw [same, found] at held
      cases held
  | some kept =>
      dsimp only
      split
      · rename_i live
        refine (and_iff_left_of_imp fun held same => ?_).symm
        rw [same, found] at held
        cases held
        exact live
      · rename_i expired
        rw [Table.get?_erase]
        by_cases same : other = key
        · subst same
          simp only [if_true, found, Option.some.injEq, forall_const]
          constructor
          · intro absent
            cases absent
          · rintro ⟨rfl, live⟩
            exact absurd live expired
        · simp [same]

theorem get_cases :
    (∃ entry, store.entries.get? key = some entry ∧ now < entry.expires ∧
        store.get key now = (some entry.value, store)) ∨
      (∀ entry, store.entries.get? key = some entry → ¬ now < entry.expires) ∧
        ∃ after, store.get key now = (none, after) ∧
          ∀ other entry, after.entries.get? other = some entry →
            store.entries.get? other = some entry := by
  cases read : (store.get key now).1 with
  | some value =>
      obtain ⟨entry, found, live, rfl⟩ := (store.get_eq_some_iff key now value).mp read
      exact .inl ⟨entry, found, live, store.get_of_lt key now found live⟩
  | none =>
      refine .inr ⟨fun entry found live => ?_, (store.get key now).2, Prod.ext read rfl,
        fun other entry held => ?_⟩
      · rw [store.get_of_lt key now found live] at read
        cases read
      · exact ((store.entries_get_eq_some_iff key other now entry).mp held).1

theorem entries_set (value : Bytes) (lifetime : Nat) :
    (store.set key value lifetime now).entries.get? other =
      if other = key then some ⟨value, now + lifetime⟩ else store.entries.get? other :=
  Table.get?_insert _ _ _ _

theorem entries_delete :
    (store.delete key).entries.get? other =
      if other = key then none else store.entries.get? other :=
  Table.get?_erase _ _ _

theorem entries_purge_eq_some_iff (entry : StoreEntry) :
    (store.purge now).2.entries.get? other = some entry ↔
      store.entries.get? other = some entry ∧ now < entry.expires := by
  rw [purge, Table.get?_filter_eq_some_iff, decide_eq_true_iff]

theorem purge_fst :
    (store.purge now).1 =
      {key | ∃ entry, store.entries.get? key = some entry ∧ entry.expires ≤ now}.ncard := by
  rw [purge, Table.size_sub_size_filter, Table.size_eq_ncard]
  refine congrArg Set.ncard (Set.ext fun key => ?_)
  simp [Option.isSome_iff_exists, Table.get?_filter_eq_some_iff]

theorem size_purge :
    (store.purge now).2.size =
      {key | ∃ entry, store.entries.get? key = some entry ∧ now < entry.expires}.ncard := by
  rw [size, Table.size_eq_ncard]
  refine congrArg Set.ncard (Set.ext fun key => ?_)
  simp only [Set.mem_ofPred_eq, Option.isSome_iff_exists, entries_purge_eq_some_iff]

end Store

inductive StoreCall where
  | get (key : String)
  | set (key : String) (value : Bytes) (lifetime : Nat)
  | delete (key : String)
  | purge
deriving DecidableEq

namespace StoreCall

def written? : StoreCall → Option String
  | .set key _ _ | .delete key => some key
  | .get _ | .purge => none

def writes (calls : List (Timed StoreCall)) : List (Timed StoreCall) :=
  calls.filter fun timed => timed.call.written?.isSome

/-- The last call that writes a key gives it a value, to expire at a moment. -/
def LastSet (calls : List (Timed StoreCall)) (key : String) (value : Bytes)
    (expires : Nat) : Prop :=
  ∃ before time lifetime rest,
    calls = before ++ ⟨time, .set key value lifetime⟩ :: rest ∧ time + lifetime = expires ∧
      ∀ later ∈ rest, later.call.written? ≠ some key

theorem not_lastSet_nil (key : String) (value : Bytes) (expires : Nat) :
    ¬ LastSet [] key value expires := by
  rintro ⟨before, time, lifetime, rest, split, _⟩
  simp at split

/-- The last call decides about the key that it writes, and about no other. -/
theorem lastSet_concat_iff (calls : List (Timed StoreCall)) (last : Timed StoreCall)
    (key : String) (value : Bytes) (expires : Nat) :
    LastSet (calls ++ [last]) key value expires ↔
      (∃ lifetime, last.call = .set key value lifetime ∧ last.time + lifetime = expires) ∨
        last.call.written? ≠ some key ∧ LastSet calls key value expires := by
  constructor
  · rintro ⟨before, time, lifetime, rest, split, moment, others⟩
    rcases rest.eq_nil_or_concat with rfl | ⟨rest, other, rfl⟩
    · obtain ⟨rfl, same⟩ := List.append_inj' split rfl
      cases same
      exact .inl ⟨lifetime, rfl, moment⟩
    · rw [List.concat_eq_append, ← List.cons_append, ← List.append_assoc] at split
      obtain ⟨rfl, same⟩ := List.append_inj' split rfl
      cases same
      refine .inr ⟨others last (by simp), before, time, lifetime, rest, rfl, moment, ?_⟩
      exact fun later member => others later (by simp [member])
  · rintro (⟨lifetime, own, moment⟩ | ⟨foreign, before, time, lifetime, rest, rfl, moment, others⟩)
    · exact ⟨calls, last.time, lifetime, [], by rw [← own], moment, by simp⟩
    · refine ⟨before, time, lifetime, rest ++ [last], by simp, moment, fun later member => ?_⟩
      rcases List.mem_append.mp member with earlier | new
      · exact others later earlier
      · rw [List.mem_singleton.mp new]
        exact foreign

theorem lastSet_unique {calls : List (Timed StoreCall)} {key : String} {value other : Bytes}
    {expires otherExpires : Nat} (first : LastSet calls key value expires)
    (second : LastSet calls key other otherExpires) :
    value = other ∧ expires = otherExpires := by
  induction calls using List.reverseRecOn with
  | nil => exact absurd first (not_lastSet_nil key value expires)
  | append_singleton calls last inductionHypothesis =>
      rcases (lastSet_concat_iff _ _ _ _ _).mp first with ⟨lifetime, own, rfl⟩ | ⟨foreign, earlier⟩
      · rcases (lastSet_concat_iff _ _ _ _ _).mp second with ⟨again, same, rfl⟩ | ⟨foreign, _⟩
        · rw [own] at same
          cases same
          exact ⟨rfl, rfl⟩
        · exact absurd (congrArg written? own) foreign
      · rcases (lastSet_concat_iff _ _ _ _ _).mp second with ⟨again, same, rfl⟩ | ⟨_, before⟩
        · exact absurd (congrArg written? same) foreign
        · exact inductionHypothesis earlier before

theorem lastSet_writes_iff (calls : List (Timed StoreCall)) (key : String) (value : Bytes)
    (expires : Nat) :
    LastSet (writes calls) key value expires ↔ LastSet calls key value expires := by
  induction calls using List.reverseRecOn with
  | nil => exact Iff.rfl
  | append_singleton calls last inductionHypothesis =>
      rw [lastSet_concat_iff, writes, List.filter_append]
      change LastSet (writes calls ++ _) key value expires ↔ _
      cases last with
      | mk time call =>
        cases call with
        | set written _ _ | delete written =>
            rw [List.filter_cons_of_pos rfl, List.filter_nil, lastSet_concat_iff,
              inductionHypothesis]
        | get asked | purge =>
            simp [written?, inductionHypothesis]

end StoreCall

namespace Store

open StoreCall

def apply (store : Store) (timed : Timed StoreCall) : Store :=
  match timed.call with
  | .get key => (store.get key timed.time).2
  | .set key value lifetime => store.set key value lifetime timed.time
  | .delete key => store.delete key
  | .purge => (store.purge timed.time).2

def after (store : Store) (calls : List (Timed StoreCall)) : Store :=
  calls.foldl apply store

/--
A store after some calls: each entry is what its key was last set to, and what has not expired
by now is there.
-/
structure Tracks (store : Store) (calls : List (Timed StoreCall)) (now : Nat) : Prop where
  stored : ∀ key entry, store.entries.get? key = some entry →
    LastSet calls key entry.value entry.expires
  live : ∀ key value expires, LastSet calls key value expires → now < expires →
    store.entries.get? key = some ⟨value, expires⟩

theorem tracks_empty (now : Nat) : empty.Tracks [] now where
  stored key entry found := by cases found
  live key value expires last := absurd last (not_lastSet_nil key value expires)

variable {store : Store} {calls : List (Timed StoreCall)} {now later : Nat}

theorem Tracks.mono (tracks : store.Tracks calls now) (passed : now ≤ later) :
    store.Tracks calls later where
  stored := tracks.stored
  live key value expires last unexpired :=
    tracks.live key value expires last (by omega)

theorem Tracks.of_unwritten (tracks : store.Tracks calls now) {next : Store}
    {timed : Timed StoreCall} (unwritten : timed.call.written? = none)
    (kept : ∀ key entry, next.entries.get? key = some entry →
      store.entries.get? key = some entry)
    (spared : ∀ key entry, store.entries.get? key = some entry → now < entry.expires →
      next.entries.get? key = some entry) :
    next.Tracks (calls ++ [timed]) now := by
  have same (key : String) (value : Bytes) (expires : Nat) :
      LastSet (calls ++ [timed]) key value expires ↔ LastSet calls key value expires := by
    rw [← lastSet_writes_iff (calls ++ [timed]), ← lastSet_writes_iff calls, writes,
      List.filter_append, List.filter_cons_of_neg (by simp [unwritten]), List.filter_nil,
      List.append_nil, writes]
  constructor
  · intro key entry found
    exact (same _ _ _).mpr (tracks.stored key entry (kept key entry found))
  · intro key value expires last unexpired
    exact spared key _ (tracks.live key value expires ((same _ _ _).mp last) unexpired) unexpired

theorem Tracks.of_written (tracks : store.Tracks calls now) {next : Store}
    {timed : Timed StoreCall} {key : String} (written : timed.call.written? = some key)
    (others : ∀ other, other ≠ key → next.entries.get? other = store.entries.get? other)
    (own : ∀ value expires, next.entries.get? key = some ⟨value, expires⟩ ↔
      ∃ lifetime, timed.call = .set key value lifetime ∧ timed.time + lifetime = expires) :
    next.Tracks (calls ++ [timed]) now := by
  constructor
  · intro other entry found
    rw [lastSet_concat_iff]
    by_cases same : other = key
    · subst same
      exact .inl ((own entry.value entry.expires).mp found)
    · rw [others other same] at found
      refine .inr ⟨?_, tracks.stored other entry found⟩
      rw [written]
      exact fun named => same (Option.some.inj named).symm
  · intro other value expires last unexpired
    rcases (lastSet_concat_iff _ _ _ _ _).mp last with
      ⟨lifetime, call, moment⟩ | ⟨foreign, earlier⟩
    · have same : key = other := Option.some.inj (written.symm.trans (congrArg written? call))
      subst same
      exact (own value expires).mpr ⟨lifetime, call, moment⟩
    · have different : other ≠ key := fun same => foreign (same ▸ written)
      rw [others other different]
      exact tracks.live other value expires earlier unexpired

theorem Tracks.apply {timed : Timed StoreCall} (tracks : store.Tracks calls timed.time) :
    (store.apply timed).Tracks (calls ++ [timed]) timed.time := by
  rcases timed with ⟨time, call⟩
  cases call with
  | get key =>
      refine tracks.of_unwritten rfl (fun other entry found => ?_) fun other entry held live => ?_
      · exact ((store.entries_get_eq_some_iff key other time entry).mp found).1
      · exact (store.entries_get_eq_some_iff key other time entry).mpr ⟨held, fun _ => live⟩
  | set key value lifetime =>
      refine tracks.of_written rfl (fun other different => ?_) fun held expires => ?_
      · rw [Store.apply, entries_set, if_neg different]
      · rw [Store.apply, entries_set, if_pos rfl]
        simp
  | delete key =>
      refine tracks.of_written rfl (fun other different => ?_) fun held expires => ?_
      · rw [Store.apply, entries_delete, if_neg different]
      · rw [Store.apply, entries_delete, if_pos rfl]
        simp
  | purge =>
      refine tracks.of_unwritten rfl (fun other entry found => ?_) fun other entry held live => ?_
      · exact ((store.entries_purge_eq_some_iff other time entry).mp found).1
      · exact (store.entries_purge_eq_some_iff other time entry).mpr ⟨held, live⟩

theorem tracks_after (ordered : Timed.InOrder calls) (made : Timed.By calls now) :
    (empty.after calls).Tracks calls now := by
  induction calls using List.reverseRecOn generalizing now with
  | nil => exact tracks_empty now
  | append_singleton calls last inductionHypothesis =>
      obtain ⟨earlier, before⟩ := (Timed.inOrder_concat_iff calls last).mp ordered
      have passed := ((Timed.by_concat_iff calls last now).mp made).2
      rw [after, List.foldl_append]
      exact (inductionHypothesis earlier before).apply.mono passed

theorem Tracks.get_eq_some_iff (tracks : store.Tracks calls now) (key : String)
    (value : Bytes) :
    (store.get key now).1 = some value ↔
      ∃ expires, LastSet calls key value expires ∧ now < expires := by
  rw [Store.get_eq_some_iff]
  constructor
  · rintro ⟨entry, found, live, rfl⟩
    exact ⟨entry.expires, tracks.stored key entry found, live⟩
  · rintro ⟨expires, last, live⟩
    exact ⟨⟨value, expires⟩, tracks.live key value expires last live, live, rfl⟩

/--
At any moment, reading a key gives the value that it was last set to if that has not expired,
whatever was read and cleaned up before.  A clean-up tells how many of the stored keys have
expired, and leaves the live ones.
-/
theorem reads_last_write {calls : List (Timed StoreCall)} (ordered : Timed.InOrder calls)
    {now : Nat} (made : Timed.By calls now) :
    (∀ key value, ((empty.after calls).get key now).1 = some value ↔
      ∃ expires, LastSet calls key value expires ∧ now < expires) ∧
    (∀ others, Timed.InOrder others → Timed.By others now → writes others = writes calls →
      ∀ key, ((empty.after others).get key now).1 = ((empty.after calls).get key now).1) ∧
    ((empty.after calls).purge now).1 =
      {key | ((empty.after calls).entries.get? key).isSome ∧
        ∃ value expires, LastSet calls key value expires ∧ expires ≤ now}.ncard ∧
    ((empty.after calls).purge now).2.size =
      {key | ∃ value expires, LastSet calls key value expires ∧ now < expires}.ncard := by
  have tracks := tracks_after ordered made
  refine ⟨tracks.get_eq_some_iff, ?_, ?_, ?_⟩
  · intro others otherOrdered otherMade same key
    apply Option.ext
    intro value
    rw [(tracks_after otherOrdered otherMade).get_eq_some_iff, tracks.get_eq_some_iff]
    simp only [← lastSet_writes_iff others, same, lastSet_writes_iff calls]
  · rw [purge_fst]
    refine congrArg Set.ncard (Set.ext fun key => ?_)
    simp only [Set.mem_ofPred_eq, Option.isSome_iff_exists]
    constructor
    · rintro ⟨entry, found, expired⟩
      exact ⟨⟨entry, found⟩, entry.value, entry.expires, tracks.stored key entry found, expired⟩
    · rintro ⟨⟨entry, found⟩, value, expires, last, expired⟩
      refine ⟨entry, found, ?_⟩
      rw [(lastSet_unique (tracks.stored key entry found) last).2]
      exact expired
  · rw [size_purge]
    refine congrArg Set.ncard (Set.ext fun key => ?_)
    simp only [Set.mem_ofPred_eq]
    constructor
    · rintro ⟨entry, found, live⟩
      exact ⟨entry.value, entry.expires, tracks.stored key entry found, live⟩
    · rintro ⟨value, expires, last, live⟩
      exact ⟨⟨value, expires⟩, tracks.live key value expires last live, live⟩

/-- A key that is set anew with less time to live, one that expires and one that is deleted. -/
def shortenedLife : List (Timed StoreCall) :=
  [⟨0, .set "a" [1] 100⟩, ⟨3, .set "b" [2] 7⟩, ⟨5, .set "a" [3] 6⟩, ⟨7, .set "c" [4] 50⟩,
    ⟨7, .get "a"⟩, ⟨8, .purge⟩, ⟨9, .delete "c"⟩]

theorem reads_last_write_shortenedLife :
    Timed.InOrder shortenedLife ∧ Timed.By shortenedLife 10 ∧
      (∃ expires, LastSet shortenedLife "a" [3] expires ∧ 10 < expires) ∧
      (¬ ∃ expires, LastSet shortenedLife "a" [3] expires ∧ 11 < expires) ∧
      ((empty.after (writes shortenedLife)).get "b" 10).1 = none ∧
      1 = {key | ((empty.after shortenedLife).entries.get? key).isSome ∧
        ∃ value expires, LastSet shortenedLife key value expires ∧ expires ≤ 10}.ncard ∧
      1 = {key | ∃ value expires, LastSet shortenedLife key value expires ∧
        10 < expires}.ncard := by
  have ordered : Timed.InOrder shortenedLife := by decide
  have made : Timed.By shortenedLife 10 := by decide
  obtain ⟨reads, same, purged, left⟩ := reads_last_write ordered made
  obtain ⟨later, _⟩ := reads_last_write ordered (by decide : Timed.By shortenedLife 11)
  refine ⟨ordered, made, (reads "a" [3]).mp (by decide), ?_, ?_, purged, left⟩
  · rw [← later "a" [3]]
    decide
  · rw [same (writes shortenedLife) (by decide) (by decide) (by decide)]
    decide

end Store

end Clearing
