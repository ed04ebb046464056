import Clearing.Proofs.RateLimit.Admissions
/-!
What a client can tell of the others.  Two limiters are alike for a client if they agree about
the window that it is in, however else their tables differ.  Evictions and requests of others
leave a limiter alike to what it was, and a request of the client gets one answer from limiters
that are alike and leaves them so.  Hence the answers to a client depend on its own requests
alone.
-/

namespace Clearing.Limiter

def openWindow? (limiter : Limiter) (client : String) (now : Nat) : Option Window :=
  (limiter.clients.get? client).filter fun window => !limiter.hasElapsed window now

/-- From a moment on, a client cannot tell two limiters apart. -/
structure Alike (client : String) (now : Nat) (first second : Limiter) : Prop where
  limit_eq : first.limit = second.limit
  length_eq : first.length = second.length
  openWindow?_eq : first.openWindow? client now = second.openWindow? client now

/-- No window starts later than now. -/
def StartedBy (limiter : Limiter) (now : Nat) : Prop :=
  ∀ client window, limiter.clients.get? client = some window → window.started ≤ now

/-- The calls of a client that makes its requests at the given times. -/
def requestsOf (client : String) (times : List Nat) : List (Timed LimiterCall) :=
  times.map fun time => ⟨time, .allow client⟩

variable {limiter first second third : Limiter} {client : String} {now later : Nat}

theorem hasElapsed_mono (passed : now ≤ later) {window : Window}
    (elapsed : limiter.hasElapsed window now = true) :
    limiter.hasElapsed window later = true := by
  rw [hasElapsed, decide_eq_true_iff] at elapsed ⊢
  omega

theorem hasElapsed_congr (same : first.length = second.length) (window : Window) (now : Nat) :
    first.hasElapsed window now = second.hasElapsed window now := by
  rw [hasElapsed, hasElapsed, same]

theorem openWindow?_eq_some_iff (limiter : Limiter) (client : String) (now : Nat)
    (window : Window) :
    limiter.openWindow? client now = some window ↔
      limiter.clients.get? client = some window ∧ limiter.hasElapsed window now = false := by
  rw [openWindow?, Option.filter_eq_some_iff, Bool.not_eq_true']

theorem windowAt_eq_getD (limiter : Limiter) (client : String) (now : Nat) :
    limiter.windowAt client now = (limiter.openWindow? client now).getD ⟨now, 0⟩ := by
  unfold windowAt openWindow?
  cases limiter.clients.get? client with
  | none => rfl
  | some window => cases elapsed : limiter.hasElapsed window now <;> simp [Option.filter, elapsed]

theorem openWindow?_of_le (passed : now ≤ later) (limiter : Limiter) (client : String) :
    limiter.openWindow? client later =
      (limiter.openWindow? client now).filter fun window =>
        !limiter.hasElapsed window later := by
  apply Option.ext
  intro window
  rw [Option.filter_eq_some_iff, openWindow?_eq_some_iff, openWindow?_eq_some_iff,
    Bool.not_eq_true']
  constructor
  · rintro ⟨found, active⟩
    refine ⟨⟨found, ?_⟩, active⟩
    rw [← Bool.not_eq_true] at active ⊢
    exact fun elapsed => active (hasElapsed_mono passed elapsed)
  · rintro ⟨⟨found, _⟩, active⟩
    exact ⟨found, active⟩

namespace Alike

theorem refl (limiter : Limiter) (client : String) (now : Nat) : Alike client now limiter limiter :=
  ⟨rfl, rfl, rfl⟩

theorem symm (alike : Alike client now first second) : Alike client now second first :=
  ⟨alike.limit_eq.symm, alike.length_eq.symm, alike.openWindow?_eq.symm⟩

theorem trans (alike : Alike client now first second) (next : Alike client now second third) :
    Alike client now first third :=
  ⟨alike.limit_eq.trans next.limit_eq, alike.length_eq.trans next.length_eq,
    alike.openWindow?_eq.trans next.openWindow?_eq⟩

theorem of_le (alike : Alike client now first second) (passed : now ≤ later) :
    Alike client later first second := by
  refine ⟨alike.limit_eq, alike.length_eq, ?_⟩
  rw [openWindow?_of_le passed, openWindow?_of_le passed, alike.openWindow?_eq]
  congr 1
  funext window
  rw [hasElapsed_congr alike.length_eq]

theorem allow (alike : Alike client now first second) :
    (first.allow client now).1 = (second.allow client now).1 ∧
      Alike client now (first.allow client now).2 (second.allow client now).2 := by
  have covering : first.windowAt client now = second.windowAt client now := by
    rw [windowAt_eq_getD, windowAt_eq_getD, alike.openWindow?_eq]
  refine ⟨?_, alike.limit_eq, alike.length_eq, ?_⟩
  · simp only [Limiter.allow, covering, alike.limit_eq]
  · unfold openWindow?
    rw [get?_allow, get?_allow, if_pos rfl, if_pos rfl, covering, alike.limit_eq]
    congr 1
    funext window
    exact congrArg _ (hasElapsed_congr alike.length_eq window now)

end Alike

theorem alike_evict (limiter : Limiter) (client : String) (now : Nat) :
    Alike client now (limiter.evict now).2 limiter := by
  refine ⟨rfl, rfl, Option.ext fun window => ?_⟩
  rw [openWindow?_eq_some_iff, openWindow?_eq_some_iff, get?_evict_eq_some_iff]
  exact and_iff_left_of_imp And.right

theorem alike_allow_of_ne {other : String} (foreign : client ≠ other) (limiter : Limiter)
    (time now : Nat) : Alike client now (limiter.allow other time).2 limiter := by
  refine ⟨rfl, rfl, ?_⟩
  unfold openWindow?
  rw [get?_allow, if_neg foreign]
  rfl

theorem alike_apply {timed : Timed LimiterCall} (foreign : timed.call ≠ .allow client)
    (limiter : Limiter) : Alike client timed.time (limiter.apply timed) limiter := by
  rcases timed with ⟨time, other | _⟩
  · exact alike_allow_of_ne (fun same => foreign (congrArg _ same.symm)) limiter time time
  · exact limiter.alike_evict client time

/-- A run among others is, for a client, a run by itself. -/
theorem Alike.run (alike : Alike client now first second) {calls : List (Timed LimiterCall)}
    (ordered : Timed.InOrder calls) (begun : ∀ timed ∈ calls, now ≤ timed.time) :
    let alone := requestsOf client (requestTimes client calls)
    first.admissions client calls = second.admissions client alone ∧
      ∀ later, now ≤ later → Timed.By calls later →
        Alike client later (first.after calls) (second.after alone) := by
  induction calls generalizing first second now with
  | nil => exact ⟨rfl, fun later reached _ => alike.of_le reached⟩
  | cons timed rest inductionHypothesis =>
      obtain ⟨passing, remaining⟩ := List.pairwise_cons.mp ordered
      have present := alike.of_le (begun timed List.mem_cons_self)
      rw [admissions]
      by_cases own : timed.call = .allow client
      · rcases timed with ⟨time, call⟩
        dsimp only at own
        subst own
        obtain ⟨answer, next⟩ := present.allow
        obtain ⟨answers, run⟩ := inductionHypothesis next remaining passing
        rw [if_pos rfl, requestTimes_cons_of_eq rfl]
        refine ⟨?_, fun later _ made => run later (made _ List.mem_cons_self) ?_⟩
        · rw [requestsOf, List.map_cons, admissions, if_pos rfl, answer]
          exact congrArg _ answers
        · exact fun other member => made other (List.mem_cons_of_mem _ member)
      · obtain ⟨answers, run⟩ :=
          inductionHypothesis ((alike_apply own first).trans present) remaining passing
        rw [if_neg own, requestTimes_cons_of_ne own]
        refine ⟨answers, fun later _ made => run later (made _ List.mem_cons_self) ?_⟩
        exact fun other member => made other (List.mem_cons_of_mem _ member)

theorem StartedBy.apply (started : limiter.StartedBy now) {timed : Timed LimiterCall}
    (made : timed.time ≤ now) : (limiter.apply timed).StartedBy now := by
  rcases timed with ⟨time, call⟩
  intro client window found
  cases call with
  | allow other =>
      rw [Limiter.apply, get?_allow] at found
      split at found
      · have covering : (limiter.windowAt other time).started ≤ now := by
          rcases limiter.windowAt_cases other time with fresh | held
          · rw [fresh]
            exact made
          · exact started other _ held
        cases found
        split <;> exact covering
      · exact started client window found
  | evict =>
      rw [Limiter.apply, get?_evict_eq_some_iff] at found
      exact started client window found.1

theorem StartedBy.after (started : limiter.StartedBy now) {calls : List (Timed LimiterCall)}
    (made : Timed.By calls now) : (limiter.after calls).StartedBy now := by
  induction calls generalizing limiter with
  | nil => exact started
  | cons timed rest inductionHypothesis =>
      exact inductionHypothesis (started.apply (made timed List.mem_cons_self))
        fun next member => made next (List.mem_cons_of_mem _ member)

theorem evict_fst (started : limiter.StartedBy now) :
    (limiter.evict now).1 =
      {client | ∃ window, limiter.clients.get? client = some window ∧
        window.started + limiter.length ≤ now}.ncard := by
  rw [evict, Table.size_sub_size_filter, Table.size_eq_ncard]
  refine congrArg Set.ncard (Set.ext fun client => ?_)
  simp only [Set.mem_ofPred_eq, Option.isSome_iff_exists, Table.get?_filter_eq_some_iff,
    Bool.not_not]
  refine exists_congr fun window => and_congr_right fun found => ?_
  exact limiter.hasElapsed_iff (started client window found)

theorem length_after (limiter : Limiter) (calls : List (Timed LimiterCall)) :
    (limiter.after calls).length = limiter.length := by
  induction calls generalizing limiter with
  | nil => rfl
  | cons timed rest inductionHypothesis =>
      rw [after, List.foldl_cons]
      refine (inductionHypothesis _).trans ?_
      rcases timed with ⟨time, call | _⟩ <;> rfl

/--
Two limiters with one limit and one length of windows, of which a client asks the same at the
same times, give it the same answers and have it in the same window, whatever others ask of them
and whenever they forget the windows that have elapsed.  An eviction tells exactly how many of
the clients that there are have a window that has fully elapsed.
-/
theorem others_are_invisible (limit length : Nat) (client : String)
    {first second : List (Timed LimiterCall)} (firstOrdered : Timed.InOrder first)
    (secondOrdered : Timed.InOrder second)
    (same : requestTimes client first = requestTimes client second) :
    (ofLimit limit length).admissions client first =
      (ofLimit limit length).admissions client second ∧
    (∀ now, Timed.By first now → Timed.By second now →
      ((ofLimit limit length).after first).openWindow? client now =
        ((ofLimit limit length).after second).openWindow? client now) ∧
    ∀ now, Timed.By first now →
      (((ofLimit limit length).after first).evict now).1 =
        {other | ∃ window,
          ((ofLimit limit length).after first).clients.get? other = some window ∧
            window.started + length ≤ now}.ncard := by
  have fresh : Alike client 0 (ofLimit limit length) (ofLimit limit length) :=
    .refl (ofLimit limit length) client 0
  obtain ⟨firstAnswers, firstRun⟩ := fresh.run firstOrdered fun _ _ => Nat.zero_le _
  obtain ⟨secondAnswers, secondRun⟩ := fresh.run secondOrdered fun _ _ => Nat.zero_le _
  rw [← same] at secondAnswers secondRun
  refine ⟨firstAnswers.trans secondAnswers.symm, fun now firstMade secondMade => ?_,
    fun now made => ?_⟩
  · have alike := (firstRun now (Nat.zero_le now) firstMade).trans
      (secondRun now (Nat.zero_le now) secondMade).symm
    exact alike.openWindow?_eq
  · have none : (ofLimit limit length).StartedBy now := by
      intro other window found
      cases found
    have told := evict_fst (none.after made)
    rwa [length_after] at told

/-- What the client of the burst asks for, among others and with other evictions. -/
def sweptBurst : List (Timed LimiterCall) :=
  [⟨0, .allow "c"⟩, ⟨0, .allow "a"⟩, ⟨5, .evict⟩, ⟨9, .allow "a"⟩, ⟨9, .allow "a"⟩,
    ⟨10, .allow "a"⟩, ⟨10, .evict⟩, ⟨11, .allow "d"⟩, ⟨11, .allow "a"⟩, ⟨19, .evict⟩]

/-- Of the two clients that the burst leaves, the other one has a window that has elapsed. -/
theorem others_are_invisible_sweptBurst :
    Timed.InOrder burst ∧ Timed.InOrder sweptBurst ∧
      requestTimes "a" burst = requestTimes "a" sweptBurst ∧
      (ofLimit 2 10).admissions "a" sweptBurst =
        [⟨0, true⟩, ⟨9, true⟩, ⟨9, false⟩, ⟨10, true⟩, ⟨11, true⟩] ∧
      ((ofLimit 2 10).after burst).openWindow? "a" 19 =
        ((ofLimit 2 10).after sweptBurst).openWindow? "a" 19 ∧
      1 = {other | ∃ window,
        ((ofLimit 2 10).after burst).clients.get? other = some window ∧
          window.started + 10 ≤ 19}.ncard := by
  have ordered : Timed.InOrder burst := by decide
  have swept : Timed.InOrder sweptBurst := by decide
  have same : requestTimes "a" burst = requestTimes "a" sweptBurst := by decide
  obtain ⟨answers, windows, evicted⟩ := others_are_invisible 2 10 "a" ordered swept same
  have made : Timed.By burst 19 := by decide
  refine ⟨ordered, swept, same, ?_, windows 19 made (by decide), ?_⟩
  · rw [← answers]
    decide
  · rw [← evicted 19 made]
    decide

end Clearing.Limiter
