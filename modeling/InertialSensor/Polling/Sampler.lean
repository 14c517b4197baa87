/-!
# The sampling timer

A task is run once per period for as long as it answers with the time to the next run. The period is
a little shorter than that time: a run that comes early costs a repeated sample, one that comes late
would lose a sample.
-/

namespace InertialSensor.Sampler

/-- Microseconds by which the period is shortened. -/
def reduction : UInt64 := 200

/-- Microseconds between runs for a polling interval in microseconds, at least one. -/
def period (interval : UInt64) : UInt64 :=
  if reduction < interval then interval - reduction else 1

/-- The number of runs of a task, and whether the timer was still going. -/
structure Tally where
  runs : Nat
  running : Bool
deriving DecidableEq

/-- An answer after which the task is run again. -/
def goesOn (answer : Option Nat) : Bool := answer.any (0 < ·)

/-- Runs a task with the given answers, and with none after them, until it answers with no time or
has been run `stopAt` times. -/
def count (stopAt : Option Nat) : (answers : List (Option Nat)) → (runs : Nat) → Tally
  | [], runs => if stopAt = some runs then ⟨runs, true⟩ else ⟨runs + 1, false⟩
  | answer :: answers, runs =>
    if stopAt = some runs then ⟨runs, true⟩
    else if goesOn answer then count stopAt answers (runs + 1)
    else ⟨runs + 1, false⟩

end InertialSensor.Sampler
