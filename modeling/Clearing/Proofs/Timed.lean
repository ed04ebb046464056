import Clearing.Power
import Mathlib.Data.List.Basic
/-!
Calls at readings of a clock that does not go back.
-/

namespace Clearing

structure Timed (Call : Type) where
  time : Nat
  call : Call
deriving DecidableEq

namespace Timed

variable {Call : Type}

def InOrder (calls : List (Timed Call)) : Prop :=
  calls.Pairwise fun earlier later => earlier.time ≤ later.time

instance (calls : List (Timed Call)) : Decidable (InOrder calls) :=
  inferInstanceAs (Decidable (calls.Pairwise _))

def By (calls : List (Timed Call)) (now : Nat) : Prop :=
  ∀ timed ∈ calls, timed.time ≤ now

instance (calls : List (Timed Call)) (now : Nat) : Decidable (By calls now) :=
  inferInstanceAs (Decidable (∀ timed ∈ calls, timed.time ≤ now))

theorem inOrder_concat_iff (calls : List (Timed Call)) (last : Timed Call) :
    InOrder (calls ++ [last]) ↔ InOrder calls ∧ By calls last.time := by
  simp [InOrder, By, List.pairwise_append]

theorem by_concat_iff (calls : List (Timed Call)) (last : Timed Call) (now : Nat) :
    By (calls ++ [last]) now ↔ By calls now ∧ last.time ≤ now := by
  simp [By, or_imp, forall_and]

end Timed

end Clearing
