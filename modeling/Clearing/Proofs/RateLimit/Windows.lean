import Clearing.RateLimit.Limiter
import Mathlib.Data.List.TakeWhile
/-!
The windows of a client.  Its requests are split from the first one on: a window starts with the
first request that the window before does not cover, and admits as many requests as the limit
allows.  Whatever lies between two moments that are a window apart is touched by two windows at
most.
-/

namespace Clearing

structure Admission where
  time : Nat
  admitted : Bool
deriving DecidableEq

namespace Limiter

/-- Split the times of requests into windows of a length. -/
def windows (length : Nat) : List Nat → List (List Nat)
  | [] => []
  | start :: later =>
      (start :: later.takeWhile fun time => time < start + length) ::
        windows length (later.dropWhile fun time => time < start + length)
termination_by times => times.length
decreasing_by exact Nat.lt_succ_of_le (List.dropWhile_suffix _).length_le

/-- The answers in a window, some requests of which have been admitted already. -/
def answers (limit admitted : Nat) (window : List Nat) : List Admission :=
  window.mapIdx fun place time => ⟨time, decide (admitted + place < limit)⟩

def verdicts (limit length : Nat) (times : List Nat) : List Admission :=
  (windows length times).flatMap (answers limit 0)

/-- The answers that follow when a window has been opened already. -/
def continued (limit length : Nat) (window : Window) (times : List Nat) : List Admission :=
  answers limit window.count (times.takeWhile fun time => time < window.started + length) ++
    verdicts limit length (times.dropWhile fun time => time < window.started + length)

/-- How many requests between two moments were admitted. -/
def admittedWithin (admissions : List Admission) (start finish : Nat) : Nat :=
  admissions.countP fun admission =>
    admission.admitted && decide (start ≤ admission.time) && decide (admission.time < finish)

variable {limit length start finish : Nat}

theorem answers_nil (admitted : Nat) : answers limit admitted [] = [] :=
  rfl

theorem answers_cons (admitted time : Nat) (later : List Nat) :
    answers limit admitted (time :: later) =
      ⟨time, decide (admitted < limit)⟩ :: answers limit (admitted + 1) later := by
  simp only [answers, List.mapIdx_cons, Nat.add_zero, List.cons.injEq, true_and]
  congr 1
  funext place next
  rw [Nat.add_right_comm, Nat.add_assoc]

theorem answers_of_le {admitted : Nat} (full : limit ≤ admitted) (window : List Nat) :
    answers limit (admitted + 1) window = answers limit admitted window := by
  unfold answers
  congr 1
  funext place time
  have refused : ¬ admitted + 1 + place < limit := by omega
  have before : ¬ admitted + place < limit := by omega
  simp [refused, before]

theorem map_time_answers (admitted : Nat) (window : List Nat) :
    (answers limit admitted window).map Admission.time = window := by
  induction window generalizing admitted with
  | nil => rfl
  | cons time later inductionHypothesis =>
      rw [answers_cons, List.map_cons, inductionHypothesis]

theorem windows_cons (time : Nat) (later : List Nat) :
    windows length (time :: later) =
      (time :: later.takeWhile fun next => next < time + length) ::
        windows length (later.dropWhile fun next => next < time + length) := by
  rw [windows]

theorem verdicts_nil : verdicts limit length [] = [] := by
  rw [verdicts, windows, List.flatMap_nil]

theorem verdicts_cons (time : Nat) (later : List Nat) :
    verdicts limit length (time :: later) =
      answers limit 0 (time :: later.takeWhile fun next => next < time + length) ++
        verdicts limit length (later.dropWhile fun next => next < time + length) := by
  rw [verdicts, windows_cons, List.flatMap_cons, verdicts]

theorem verdicts_cons_eq_continued (time : Nat) (later : List Nat) :
    verdicts limit length (time :: later) =
      ⟨time, decide (0 < limit)⟩ :: continued limit length ⟨time, 1⟩ later := by
  rw [verdicts_cons, answers_cons, List.cons_append, continued]

theorem continued_of_elapsed {window : Window} {times : List Nat}
    (elapsed : ∀ time ∈ times.head?, window.started + length ≤ time) :
    continued limit length window times = verdicts limit length times := by
  unfold continued
  cases times with
  | nil => rw [List.takeWhile_nil, List.dropWhile_nil, answers_nil, List.nil_append]
  | cons time later =>
      have late := elapsed time rfl
      rw [List.takeWhile_cons_of_neg (by simpa using late),
        List.dropWhile_cons_of_neg (by simpa using late), answers_nil, List.nil_append]

theorem continued_cons {started count time : Nat} (covered : time < started + length)
    (later : List Nat) :
    continued limit length ⟨started, count⟩ (time :: later) =
      ⟨time, decide (count < limit)⟩ :: continued limit length ⟨started, count + 1⟩ later := by
  unfold continued
  rw [List.takeWhile_cons_of_pos (by simpa using covered),
    List.dropWhile_cons_of_pos (by simpa using covered), answers_cons, List.cons_append]

theorem continued_of_le {started count : Nat} (full : limit ≤ count) (times : List Nat) :
    continued limit length ⟨started, count + 1⟩ times =
      continued limit length ⟨started, count⟩ times := by
  unfold continued
  rw [answers_of_le full]

theorem map_time_verdicts (times : List Nat) :
    (verdicts limit length times).map Admission.time = times := by
  fun_induction windows length times with
  | case1 => rw [verdicts_nil, List.map_nil]
  | case2 start later inductionHypothesis =>
      rw [verdicts_cons, List.map_append, map_time_answers, inductionHypothesis,
        List.cons_append, List.takeWhile_append_dropWhile]

theorem le_of_mem_dropWhile {bound time : Nat} {times : List Nat}
    (ordered : times.Pairwise (· ≤ ·))
    (member : time ∈ times.dropWhile fun next => next < bound) : bound ≤ time := by
  induction times with
  | nil => cases member
  | cons first rest inductionHypothesis =>
      obtain ⟨least, rest⟩ := List.pairwise_cons.mp ordered
      by_cases early : first < bound
      · rw [List.dropWhile_cons_of_pos (by simpa using early)] at member
        exact inductionHypothesis rest member
      · rw [List.dropWhile_cons_of_neg (by simpa using early)] at member
        rcases List.mem_cons.mp member with rfl | after
        · omega
        · exact Nat.le_trans (Nat.le_of_not_lt early) (least time after)

theorem admittedWithin_append (first second : List Admission) :
    admittedWithin (first ++ second) start finish =
      admittedWithin first start finish + admittedWithin second start finish :=
  List.countP_append

theorem admittedWithin_answers_le (admitted : Nat) (window : List Nat) :
    admittedWithin (answers limit admitted window) start finish ≤ limit - admitted := by
  induction window generalizing admitted with
  | nil => exact Nat.zero_le _
  | cons time later inductionHypothesis =>
      have rest := inductionHypothesis (admitted + 1)
      unfold admittedWithin at rest ⊢
      rw [answers_cons, List.countP_cons]
      by_cases room : admitted < limit
      · split <;> omega
      · simp only [room, decide_false, Bool.false_and]
        simp
        omega

theorem admittedWithin_eq_zero {admissions : List Admission}
    (outside : ∀ time ∈ admissions.map Admission.time, ¬ (start ≤ time ∧ time < finish)) :
    admittedWithin admissions start finish = 0 := by
  rw [admittedWithin, List.countP_eq_zero]
  intro admission member passes
  simp only [Bool.and_eq_true, decide_eq_true_eq, and_assoc] at passes
  exact outside _ (List.mem_map_of_mem member) passes.2

/-- From the start of a window on, one window admits all that a window's length sees. -/
theorem admittedWithin_verdicts_le {times : List Nat} (ordered : times.Pairwise (· ≤ ·))
    (late : ∀ time ∈ times, start ≤ time) :
    admittedWithin (verdicts limit length times) start (start + length) ≤ limit := by
  cases times with
  | nil =>
      rw [verdicts_nil]
      exact Nat.zero_le limit
  | cons first rest =>
      have reached := late first List.mem_cons_self
      have after : admittedWithin
          (verdicts limit length (rest.dropWhile fun next => next < first + length))
          start (start + length) = 0 := by
        apply admittedWithin_eq_zero
        rw [map_time_verdicts]
        intro time member inside
        have beyond := le_of_mem_dropWhile (List.pairwise_cons.mp ordered).2 member
        omega
      rw [verdicts_cons, admittedWithin_append, after]
      exact admittedWithin_answers_le 0 _

theorem admittedWithin_verdicts_le_two_mul {times : List Nat}
    (ordered : times.Pairwise (· ≤ ·)) :
    admittedWithin (verdicts limit length times) start (start + length) ≤ 2 * limit := by
  fun_induction windows length times with
  | case1 =>
      rw [verdicts_nil]
      exact Nat.zero_le _
  | case2 first rest inductionHypothesis =>
      obtain ⟨least, later⟩ := List.pairwise_cons.mp ordered
      have remaining := later.sublist
        (List.dropWhile_suffix fun next => decide (next < first + length)).sublist
      rw [verdicts_cons, admittedWithin_append]
      by_cases elapsed : first + length ≤ start
      · -- the first window has elapsed before the interval starts
        have before : admittedWithin (answers limit 0
            (first :: rest.takeWhile fun next => next < first + length))
            start (start + length) = 0 := by
          apply admittedWithin_eq_zero
          rw [map_time_answers]
          intro time member inside
          rcases List.mem_cons.mp member with rfl | covered
          · omega
          · have soon := List.mem_takeWhile_imp covered
            simp only [decide_eq_true_eq] at soon
            omega
        rw [before, Nat.zero_add]
        exact inductionHypothesis remaining
      · -- what the first window leaves comes after the start of the interval
        have window : admittedWithin (answers limit 0
            (first :: rest.takeWhile fun next => next < first + length))
            start (start + length) ≤ limit := admittedWithin_answers_le 0 _
        have others : admittedWithin (verdicts limit length
            (rest.dropWhile fun next => next < first + length))
            start (start + length) ≤ limit := by
          apply admittedWithin_verdicts_le remaining
          intro time member
          have beyond := le_of_mem_dropWhile later member
          omega
        omega

end Limiter

end Clearing
