/-!
# Clock

Time is a count of microseconds modulo `2^64`, and moves only when it is told to: between requests,
and by the delays of bring-up. So it stands still within a measurement cycle, which a driver may do
with up to three readings of its clock: for the end of a holding period, for the deadline of a
recovery and for the time of a sample. A wall clock starts at one, so that zero can stand for a time
that never was.
-/

namespace InertialSensor

/-- A clock and its reading in microseconds. -/
structure Clock where
  now : UInt64
deriving DecidableEq

namespace Clock

/-- A clock as it starts when nothing else is said. -/
def start : Clock := ⟨1⟩

/-- Moves time forward. -/
def advance (us : UInt64) (c : Clock) : Clock := ⟨c.now + us⟩

/-- Moves time forward to a later reading; an earlier one is ignored. -/
def jump (us : UInt64) (c : Clock) : Clock := ⟨max c.now us⟩

end Clock

end InertialSensor
