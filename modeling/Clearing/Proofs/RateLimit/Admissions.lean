import Clearing.Proofs.RateLimit.Windows
import Clearing.Proofs.Table
import Clearing.Proofs.Timed
/-!
Requests that are admitted.  What a client is told depends on the times of its own requests
alone: its windows admit the first requests of each of them, whatever other clients do and
whichever windows are forgotten once they have elapsed.
-/

namespace Clearing

inductive LimiterCall where
  | allow (client : String)
  | evict
deriving DecidableEq

namespace Limiter

def apply (limiter : Limiter) (timed : Timed LimiterCall) : Limiter :=
  match timed.call with
  | .allow client => (limiter.allow client timed.time).2
  | .evict => (limiter.evict timed.time).2

def after (limiter : Limiter) (calls : List (Timed LimiterCall)) : Limiter :=
  calls.foldl apply limiter

/-- The answers that a client gets in a sequence of calls. -/
def admissions (limiter : Limiter) (client : String) : List (Timed LimiterCall) → List Admission
  | [] => []
  | timed :: rest =>
      let later := (limiter.apply timed).admissions client rest
      if timed.call = .allow client then
        ⟨timed.time, (limiter.allow client timed.time).1⟩ :: later
      else
        later

def requestTimes (client : String) (calls : List (Timed LimiterCall)) : List Nat :=
  (calls.filter fun timed => timed.call = .allow client).map Timed.time

/-- The answers to come, given the window that a client is in. -/
def upcoming (limiter : Limiter) (client : String) (times : List Nat) : List Admission :=
  match limiter.clients.get? client with
  | none => verdicts limiter.limit limiter.length times
  | some window => continued limiter.limit limiter.length window times

/-- The window of a client, if it has one, has started by the time of each call. -/
def Begun (limiter : Limiter) (client : String) (calls : List (Timed LimiterCall)) : Prop :=
  ∀ window, limiter.clients.get? client = some window →
    ∀ timed ∈ calls, window.started ≤ timed.time

variable {limiter : Limiter} {client : String}

theorem hasElapsed_iff (limiter : Limiter) {window : Window} {now : Nat}
    (begun : window.started ≤ now) :
    limiter.hasElapsed window now = true ↔ window.started + limiter.length ≤ now := by
  rw [hasElapsed, decide_eq_true_iff]
  omega

theorem get?_allow (limiter : Limiter) (client other : String) (now : Nat) :
    (limiter.allow client now).2.clients.get? other =
      if other = client then
        some (if (limiter.windowAt client now).count < limiter.limit then
          { limiter.windowAt client now with
            count := (limiter.windowAt client now).count + 1 }
        else
          limiter.windowAt client now)
      else
        limiter.clients.get? other := by
  rw [allow]
  dsimp only
  rw [Table.get?_insert]
  by_cases room : (limiter.windowAt client now).count < limiter.limit <;> simp [room]

theorem get?_evict_eq_some_iff (limiter : Limiter) (client : String) (now : Nat)
    (window : Window) :
    (limiter.evict now).2.clients.get? client = some window ↔
      limiter.clients.get? client = some window ∧ limiter.hasElapsed window now = false := by
  rw [evict, Table.get?_filter_eq_some_iff, Bool.not_eq_true']

theorem windowAt_of_none {now : Nat} (absent : limiter.clients.get? client = none) :
    limiter.windowAt client now = ⟨now, 0⟩ := by
  rw [windowAt, absent]

theorem windowAt_of_some {now : Nat} {window : Window}
    (found : limiter.clients.get? client = some window) :
    limiter.windowAt client now =
      if limiter.hasElapsed window now then ⟨now, 0⟩ else window := by
  rw [windowAt, found]

theorem windowAt_cases (limiter : Limiter) (client : String) (now : Nat) :
    limiter.windowAt client now = ⟨now, 0⟩ ∨
      limiter.clients.get? client = some (limiter.windowAt client now) := by
  cases found : limiter.clients.get? client with
  | none => exact .inl (windowAt_of_none found)
  | some window =>
      rw [windowAt_of_some found]
      split
      · exact .inl rfl
      · exact .inr rfl

/-- What a client is told next, and what follows, depends on the window of its request. -/
theorem upcoming_cons {now : Nat}
    (begun : ∀ window, limiter.clients.get? client = some window → window.started ≤ now)
    (later : List Nat) :
    limiter.upcoming client (now :: later) =
      ⟨now, decide ((limiter.windowAt client now).count < limiter.limit)⟩ ::
        continued limiter.limit limiter.length
          ⟨(limiter.windowAt client now).started, (limiter.windowAt client now).count + 1⟩
          later := by
  unfold upcoming
  cases found : limiter.clients.get? client with
  | none =>
      rw [windowAt_of_none found]
      exact verdicts_cons_eq_continued now later
  | some window =>
      have ended := limiter.hasElapsed_iff (begun window found)
      dsimp only
      cases elapsed : limiter.hasElapsed window now with
      | true =>
          rw [windowAt_of_some found, if_pos elapsed, continued_of_elapsed,
            verdicts_cons_eq_continued]
          intro time next
          cases next
          exact ended.mp elapsed
      | false =>
          rw [windowAt_of_some found, elapsed, if_neg Bool.false_ne_true]
          refine continued_cons ?_ later
          rw [← Bool.not_eq_true, ended] at elapsed
          omega

theorem upcoming_allow (limiter : Limiter) (client : String) (now : Nat) (later : List Nat) :
    (limiter.allow client now).2.upcoming client later =
      continued limiter.limit limiter.length
        ⟨(limiter.windowAt client now).started, (limiter.windowAt client now).count + 1⟩
        later := by
  rw [upcoming, get?_allow, if_pos rfl]
  change continued limiter.limit limiter.length _ later = _
  split
  · rfl
  · rename_i full
    exact (continued_of_le (Nat.le_of_not_lt full) later).symm

/-- Forgetting a window that has elapsed changes nothing about what follows. -/
theorem upcoming_evict {now : Nat} {times : List Nat}
    (begun : ∀ window, limiter.clients.get? client = some window → window.started ≤ now)
    (late : ∀ time ∈ times, now ≤ time) :
    (limiter.evict now).2.upcoming client times = limiter.upcoming client times := by
  have kept := limiter.get?_evict_eq_some_iff client now
  unfold upcoming
  cases found : limiter.clients.get? client with
  | none =>
      have absent : (limiter.evict now).2.clients.get? client = none := by
        apply Option.eq_none_iff_forall_ne_some.mpr
        intro window held
        rw [kept, found] at held
        cases held.1
      rw [absent]
      rfl
  | some window =>
      have ended := limiter.hasElapsed_iff (begun window found)
      cases elapsed : limiter.hasElapsed window now with
      | false =>
          rw [(kept window).mpr ⟨found, elapsed⟩]
          rfl
      | true =>
          have absent : (limiter.evict now).2.clients.get? client = none := by
            apply Option.eq_none_iff_forall_ne_some.mpr
            intro other held
            rw [kept, found] at held
            obtain ⟨same, active⟩ := held
            cases same
            rw [elapsed] at active
            cases active
          rw [absent]
          refine (continued_of_elapsed fun time next => ?_).symm
          exact Nat.le_trans (ended.mp elapsed) (late time (List.mem_of_mem_head? next))

theorem upcoming_allow_of_ne {other : String} (foreign : client ≠ other) (now : Nat)
    (times : List Nat) :
    (limiter.allow other now).2.upcoming client times = limiter.upcoming client times := by
  rw [upcoming, get?_allow, if_neg foreign, upcoming]
  rfl

theorem upcoming_nil : limiter.upcoming client [] = [] := by
  unfold upcoming
  split
  · exact verdicts_nil
  · rw [continued_of_elapsed (by simp), verdicts_nil]

theorem requestTimes_cons_of_eq {timed : Timed LimiterCall}
    (own : timed.call = .allow client) (rest : List (Timed LimiterCall)) :
    requestTimes client (timed :: rest) = timed.time :: requestTimes client rest := by
  rw [requestTimes, List.filter_cons_of_pos (by simpa using own), List.map_cons, requestTimes]

theorem requestTimes_cons_of_ne {timed : Timed LimiterCall}
    (foreign : timed.call ≠ .allow client) (rest : List (Timed LimiterCall)) :
    requestTimes client (timed :: rest) = requestTimes client rest := by
  rw [requestTimes, List.filter_cons_of_neg (by simpa using foreign), requestTimes]

theorem le_of_mem_requestTimes {calls : List (Timed LimiterCall)} {now time : Nat}
    (late : ∀ timed ∈ calls, now ≤ timed.time) (member : time ∈ requestTimes client calls) :
    now ≤ time := by
  obtain ⟨timed, kept, rfl⟩ := List.mem_map.mp member
  exact late timed (List.mem_filter.mp kept).1

theorem Begun.apply {timed : Timed LimiterCall} {rest : List (Timed LimiterCall)}
    (begun : limiter.Begun client (timed :: rest))
    (late : ∀ next ∈ rest, timed.time ≤ next.time) :
    (limiter.apply timed).Begun client rest := by
  rcases timed with ⟨time, call⟩
  intro window found next member
  have passed := late next member
  cases call with
  | allow other =>
      rw [Limiter.apply, get?_allow] at found
      split at found
      · rename_i same
        subst same
        have opened : (limiter.windowAt client time).started ≤ next.time := by
          rcases limiter.windowAt_cases client time with fresh | held
          · rw [fresh]
            exact passed
          · exact begun _ held next (List.mem_cons_of_mem _ member)
        cases found
        split <;> exact opened
      · exact begun window found next (List.mem_cons_of_mem _ member)
  | evict =>
      rw [Limiter.apply, get?_evict_eq_some_iff] at found
      exact begun window found.1 next (List.mem_cons_of_mem _ member)

/-- The answers to a client are those that the windows of its requests give. -/
theorem admissions_eq_upcoming {calls : List (Timed LimiterCall)}
    (ordered : Timed.InOrder calls) (begun : limiter.Begun client calls) :
    limiter.admissions client calls = limiter.upcoming client (requestTimes client calls) := by
  induction calls generalizing limiter with
  | nil => exact upcoming_nil.symm
  | cons timed rest inductionHypothesis =>
      obtain ⟨late, later⟩ := List.pairwise_cons.mp ordered
      have next := inductionHypothesis later (begun.apply late)
      have started (window : Window) (found : limiter.clients.get? client = some window) :=
        begun window found timed List.mem_cons_self
      rw [admissions, next]
      rcases timed with ⟨time, call⟩
      by_cases own : call = .allow client
      · subst own
        rw [if_pos rfl, requestTimes_cons_of_eq rfl, upcoming_cons started]
        exact congrArg _ (upcoming_allow limiter client time _)
      · rw [if_neg own, requestTimes_cons_of_ne own]
        cases call with
        | allow other =>
            have foreign : client ≠ other := fun same => own (congrArg _ same.symm)
            exact upcoming_allow_of_ne foreign time _
        | evict =>
            exact upcoming_evict started fun time member => le_of_mem_requestTimes late member

def Bounded (limiter : Limiter) : Prop :=
  ∀ client window, limiter.clients.get? client = some window → window.count ≤ limiter.limit

theorem bounded_ofLimit (limit length : Nat) : (ofLimit limit length).Bounded := by
  intro client window found
  cases found

theorem Bounded.apply (bounded : limiter.Bounded) (timed : Timed LimiterCall) :
    (limiter.apply timed).Bounded := by
  rcases timed with ⟨time, call⟩
  intro client window found
  cases call with
  | allow other =>
      rw [Limiter.apply, get?_allow] at found
      change window.count ≤ limiter.limit
      split at found
      · have covering : (limiter.windowAt other time).count ≤ limiter.limit := by
          rcases limiter.windowAt_cases other time with fresh | held
          · rw [fresh]
            exact Nat.zero_le _
          · exact bounded other _ held
        cases found
        split
        · rename_i room
          exact room
        · exact covering
      · exact bounded client window found
  | evict =>
      rw [Limiter.apply, get?_evict_eq_some_iff] at found
      exact bounded client window found.1

theorem Bounded.after (bounded : limiter.Bounded) (calls : List (Timed LimiterCall)) :
    (limiter.after calls).Bounded := by
  induction calls generalizing limiter with
  | nil => exact bounded
  | cons timed rest inductionHypothesis => exact inductionHypothesis (bounded.apply timed)

theorem limit_after (limiter : Limiter) (calls : List (Timed LimiterCall)) :
    (limiter.after calls).limit = limiter.limit := by
  induction calls generalizing limiter with
  | nil => rfl
  | cons timed rest inductionHypothesis =>
      rw [after, List.foldl_cons]
      refine (inductionHypothesis _).trans ?_
      rcases timed with ⟨time, call | _⟩ <;> rfl

/--
A client is told window by window what its own requests give: the first of each window are
admitted, as many as the limit allows.  So no stretch of time that is as long as a window sees
more than twice the limit admitted, and no window counts beyond the limit.
-/
theorem admits_first_of_windows (limit length : Nat) {calls : List (Timed LimiterCall)}
    (ordered : Timed.InOrder calls) (client : String) :
    (ofLimit limit length).admissions client calls =
      (windows length (requestTimes client calls)).flatMap (fun window =>
        window.mapIdx fun place time => ⟨time, decide (place < limit)⟩) ∧
    (∀ start, admittedWithin ((ofLimit limit length).admissions client calls) start
      (start + length) ≤ 2 * limit) ∧
    ∀ window, ((ofLimit limit length).after calls).clients.get? client = some window →
      window.count ≤ limit := by
  have told : (ofLimit limit length).admissions client calls =
      verdicts limit length (requestTimes client calls) :=
    admissions_eq_upcoming ordered fun window found => by cases found
  refine ⟨?_, ?_, ?_⟩
  · rw [told, verdicts]
    have fresh : answers limit 0 = fun window =>
        window.mapIdx fun place time => ⟨time, decide (place < limit)⟩ := by
      funext window
      simp [answers]
    rw [fresh]
  · intro start
    rw [told]
    apply admittedWithin_verdicts_le_two_mul
    exact List.pairwise_map.mpr (ordered.sublist List.filter_sublist)
  · intro window found
    have bounded := (bounded_ofLimit limit length).after calls client window found
    rwa [limit_after] at bounded

/-- A window is used up, is forgotten the moment it has elapsed, and a new one is opened. -/
def burst : List (Timed LimiterCall) :=
  [⟨0, .allow "a"⟩, ⟨9, .allow "a"⟩, ⟨9, .allow "a"⟩, ⟨9, .allow "b"⟩, ⟨10, .evict⟩,
    ⟨10, .allow "a"⟩, ⟨11, .allow "a"⟩]

theorem admits_first_of_windows_burst :
    Timed.InOrder burst ∧ windows 10 (requestTimes "a" burst) = [[0, 9, 9], [10, 11]] ∧
      (ofLimit 2 10).admissions "a" burst =
        [⟨0, true⟩, ⟨9, true⟩, ⟨9, false⟩, ⟨10, true⟩, ⟨11, true⟩] ∧
      admittedWithin ((ofLimit 2 10).admissions "a" burst) 9 19 ≤ 4 ∧
      ∀ window, ((ofLimit 2 10).after burst).clients.get? "a" = some window →
        window.count ≤ 2 := by
  have ordered : Timed.InOrder burst := by decide
  have split : windows 10 (requestTimes "a" burst) = [[0, 9, 9], [10, 11]] := by
    decide +kernel
  obtain ⟨told, sliding, bounded⟩ := admits_first_of_windows 2 10 ordered "a"
  rw [split] at told
  exact ⟨ordered, split, told, sliding 9, bounded⟩

end Limiter

end Clearing
