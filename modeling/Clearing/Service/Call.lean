import Clearing.World
/-!
Calls of services.  A call goes through stages, and at each stage it asks the
world for one thing at most, so that other calls may come in between.  A stage
at which nothing ever answers is left as it is.
-/

namespace Clearing

/-- A call at a stage, or the answer that it came to. -/
inductive Call (Stage Answer : Type) where
  | running (stage : Stage)
  | answered (answer : Answer)
deriving DecidableEq

namespace Call

variable {Stage Answer : Type}

def answer? : Call Stage Answer → Option Answer
  | running _ => none
  | answered answer => some answer

def advance (step : World → Stage → Call Stage Answer × World) (world : World) :
    Call Stage Answer → Call Stage Answer × World
  | running stage => step world stage
  | answered answer => (answered answer, world)

/-- Take a number of steps with nothing in between. -/
def run (step : World → Stage → Call Stage Answer × World) :
    (steps : Nat) → World → Call Stage Answer → Call Stage Answer × World
  | 0, world, call => (call, world)
  | steps + 1, world, call =>
      let (call, world) := advance step world call
      run step steps world call

end Call

end Clearing
