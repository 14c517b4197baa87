/-!
# Dropping repeated samples

A block whose accel bytes have not changed since the last one was most likely read twice. Only the
first repeat is dropped, so that a signal that is really constant still gets through every other
time.
-/

namespace InertialSensor

/-- The accel bytes last let through, and whether a repeat of them was dropped. -/
structure RepeatGuard where
  last : Vector UInt8 6 := Vector.replicate 6 0
  dropped : Bool := false
deriving DecidableEq

namespace RepeatGuard

/-- Whether the bytes are a repeat to be dropped, and the guard afterwards. -/
def examine (bytes : Vector UInt8 6) (g : RepeatGuard) : Bool × RepeatGuard :=
  if g.dropped = false ∧ bytes = g.last then (true, { g with dropped := true })
  else (false, { last := bytes, dropped := false })

end RepeatGuard

end InertialSensor
