import InertialSensor.Axes

/-!
# Reports

One finished sample of a stream. The two streams' reports have the same shape, except that the
accelerometer's also carries the temperature of the die.
-/

namespace InertialSensor

/-- The temperature of the die, as read and in degrees Celsius. -/
structure DieTemperature where
  raw : Int16
  celsius : Float32

/-- One finished sample of a stream, in metres per second squared or in radians per second. -/
structure Report where
  /-- Microseconds; the two streams' reports of one cycle carry the same time. -/
  time : UInt64
  /-- Bad transfers and bad registers so far. -/
  errors : Nat
  /-- Counts in the board's frame. -/
  raw : Axes Int16
  /-- The value before the low-pass filter. -/
  calibrated : Axes Float32
  filtered : Axes Float32
  /-- The change over the window that closed with this sample, zero if none did. -/
  change : Axes Float32
  /-- The length of that window in microseconds, zero if none closed. -/
  duration : UInt64
  /-- Units per count. -/
  scaling : Float32
  /-- The full scale. -/
  range : Float32
  /-- Only on the accelerometer's stream. -/
  temperature : Option DieTemperature

end InertialSensor
