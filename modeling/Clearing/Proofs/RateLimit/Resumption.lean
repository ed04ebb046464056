import Clearing.Proofs.RateLimit.Isolation
/-!
A limiter that is at work already.  The window that a client is in goes on until it has elapsed;
whatever it has been used before, its next requests are answered as far as there is room in it.
What comes after it is split into windows as from the beginning.
-/

namespace Clearing.Limiter

/--
The windows that the requests of a client at the given times fall into, each with what has been
used of it before; the first of them is the one that the client is in, if it is in one.
-/
def windowsFrom (limiter : Limiter) (client : String) (times : List Nat) :
    List (Nat × List Nat) :=
  match limiter.clients.get? client with
  | none => (windows limiter.length times).map fun window => (0, window)
  | some window =>
      let covered := fun time => !limiter.hasElapsed window time
      (window.count, times.takeWhile covered) ::
        (windows limiter.length (times.dropWhile covered)).map fun window => (0, window)

/-- The answers to requests at the given times, window by window. -/
def verdictsFrom (limiter : Limiter) (client : String) (times : List Nat) : List Admission :=
  (limiter.windowsFrom client times).flatMap fun window =>
    answers limiter.limit window.1 window.2

variable {limiter : Limiter} {client : String}

theorem verdictsFrom_of_none (absent : limiter.clients.get? client = none) (times : List Nat) :
    limiter.verdictsFrom client times = verdicts limiter.limit limiter.length times := by
  rw [verdictsFrom, windowsFrom, absent, List.flatMap_map, verdicts]

theorem verdictsFrom_of_some {window : Window}
    (found : limiter.clients.get? client = some window) (times : List Nat) :
    limiter.verdictsFrom client times =
      answers limiter.limit window.count
          (times.takeWhile fun time => !limiter.hasElapsed window time) ++
        verdicts limiter.limit limiter.length
          (times.dropWhile fun time => !limiter.hasElapsed window time) := by
  rw [verdictsFrom, windowsFrom, found]
  dsimp only
  rw [List.flatMap_cons, List.flatMap_map, verdicts]

theorem verdictsFrom_of_closed {time : Nat} (closed : limiter.openWindow? client time = none)
    (later : List Nat) :
    limiter.verdictsFrom client (time :: later) =
      verdicts limiter.limit limiter.length (time :: later) := by
  cases found : limiter.clients.get? client with
  | none => exact verdictsFrom_of_none found _
  | some window =>
      have elapsed : limiter.hasElapsed window time = true := by
        rw [openWindow?, found] at closed
        simpa [Option.filter] using closed
      rw [verdictsFrom_of_some found, List.takeWhile_cons_of_neg (by simp [elapsed]),
        List.dropWhile_cons_of_neg (by simp [elapsed]), answers_nil, List.nil_append]

theorem verdictsFrom_of_open {time : Nat} {window : Window}
    (opened : limiter.openWindow? client time = some window) (later : List Nat) :
    limiter.verdictsFrom client (time :: later) =
      ⟨time, (limiter.allow client time).1⟩ ::
        (limiter.allow client time).2.verdictsFrom client later := by
  obtain ⟨found, active⟩ := (limiter.openWindow?_eq_some_iff client time window).mp opened
  have covering : limiter.windowAt client time = window := by
    rw [windowAt_eq_getD, opened, Option.getD_some]
  have next := limiter.get?_allow client client time
  rw [if_pos rfl, covering] at next
  rw [verdictsFrom_of_some found, List.takeWhile_cons_of_pos (by simp [active]),
    List.dropWhile_cons_of_pos (by simp [active]), answers_cons, List.cons_append,
    verdictsFrom_of_some next, allow, covering]
  congr 1
  by_cases room : window.count < limiter.limit
  · rw [if_pos room]
    rfl
  · rw [if_neg room, answers_of_le (Nat.le_of_not_lt room)]
    rfl

theorem requestTimes_requestsOf (client : String) (times : List Nat) :
    requestTimes client (requestsOf client times) = times := by
  simp [requestTimes, requestsOf, List.filter_map, Function.comp_def]

theorem inOrder_requestsOf (client : String) {times : List Nat}
    (ordered : times.Pairwise (· ≤ ·)) : Timed.InOrder (requestsOf client times) :=
  List.pairwise_map.mpr ordered

theorem begun_allow {time : Nat} {later : List Nat}
    (closed : limiter.openWindow? client time = none) (reached : ∀ next ∈ later, time ≤ next) :
    (limiter.allow client time).2.Begun client (requestsOf client later) := by
  intro window found timed member
  obtain ⟨next, held, rfl⟩ := List.mem_map.mp member
  have fresh : limiter.windowAt client time = ⟨time, 0⟩ := by
    rw [windowAt_eq_getD, closed, Option.getD_none]
  rw [get?_allow, if_pos rfl, fresh] at found
  cases found
  split <;> exact reached next held

/-- A client is told, window by window, what its own requests give. -/
theorem admissions_requestsOf (limiter : Limiter) (client : String) {times : List Nat}
    (ordered : times.Pairwise (· ≤ ·)) :
    limiter.admissions client (requestsOf client times) = limiter.verdictsFrom client times := by
  induction times generalizing limiter with
  | nil =>
      rw [verdictsFrom, windowsFrom]
      split <;> simp [requestsOf, admissions, windows, answers_nil]
  | cons time later inductionHypothesis =>
      obtain ⟨reached, remaining⟩ := List.pairwise_cons.mp ordered
      rw [requestsOf, List.map_cons, admissions, if_pos rfl]
      cases opened : limiter.openWindow? client time with
      | some window =>
          rw [verdictsFrom_of_open opened]
          exact congrArg _ (inductionHypothesis _ remaining)
      | none =>
          have fresh : limiter.windowAt client time = ⟨time, 0⟩ := by
            rw [windowAt_eq_getD, opened, Option.getD_none]
          have next := admissions_eq_upcoming (inOrder_requestsOf client remaining)
            (begun_allow opened reached)
          rw [requestTimes_requestsOf, upcoming_allow, fresh] at next
          rw [verdictsFrom_of_closed opened, verdicts_cons_eq_continued, allow, fresh]
          exact congrArg _ next

/-- Others are not noticed, and neither is it that elapsed windows are forgotten. -/
theorem admissions_eq_verdictsFrom (limiter : Limiter) (client : String)
    {calls : List (Timed LimiterCall)} (ordered : Timed.InOrder calls) :
    limiter.admissions client calls =
      limiter.verdictsFrom client (requestTimes client calls) := by
  have alone := (Alike.refl limiter client 0).run ordered fun _ _ => Nat.zero_le _
  rw [alone.1, admissions_requestsOf]
  exact List.pairwise_map.mpr (ordered.sublist List.filter_sublist)

theorem map_time_admissions (limiter : Limiter) (client : String)
    (calls : List (Timed LimiterCall)) :
    (limiter.admissions client calls).map Admission.time = requestTimes client calls := by
  induction calls generalizing limiter with
  | nil => rfl
  | cons timed rest inductionHypothesis =>
      rw [admissions]
      by_cases own : timed.call = .allow client
      · rw [if_pos own, requestTimes_cons_of_eq own, List.map_cons, inductionHypothesis]
      · rw [if_neg own, requestTimes_cons_of_ne own, inductionHypothesis]

theorem admissions_append (limiter : Limiter) (client : String)
    (front back : List (Timed LimiterCall)) :
    limiter.admissions client (front ++ back) =
      limiter.admissions client front ++ (limiter.after front).admissions client back := by
  induction front generalizing limiter with
  | nil => rfl
  | cons timed rest inductionHypothesis =>
      rw [List.cons_append, admissions, admissions, inductionHypothesis]
      split <;> rfl

end Clearing.Limiter
