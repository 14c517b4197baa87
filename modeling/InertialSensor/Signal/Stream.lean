import InertialSensor.Signal.Backlog
import InertialSensor.Signal.Calibration
import InertialSensor.Signal.DeltaWindow
import InertialSensor.Signal.LowPass
import InertialSensor.Signal.Mounting
import InertialSensor.Signal.Report

/-!
# Output streams

Everything that turns the raw words of one sensor into its reports: calibration, one low-pass
filter per axis, the window of integrated change, and the backlog of unread reports.
-/

namespace InertialSensor

/-- One output stream. -/
structure Stream where
  calibration : Calibration := .identity
  filters : Axes LowPass
  window : DeltaWindow
  backlog : Backlog Report
  /-- The number of windows closed so far. -/
  closed : Nat := 0

/-- What both streams need to know about a sample. -/
structure Conditions where
  mounting : Mounting
  time : UInt64
  /-- Bad transfers and bad registers so far. -/
  errors : Nat

/-- The scale a sensor is set to. -/
structure Scaling where
  /-- Units per count. -/
  perCount : Float32
  /-- The full scale in units. -/
  range : Float32

namespace Stream

/-- A fresh stream. -/
def new (rate cutoff : Float32) (interval : UInt64) (coning : Bool) (depth : Nat) : Stream where
  filters := .replicate (.design rate cutoff)
  window := { interval := interval, coning := coning }
  backlog := .empty depth

/-- The cutoff of the stream's filters. -/
def cutoff (s : Stream) : Float32 := s.filters.x.cutoff

/-- New designs for the three filters. -/
def redesign (rate cutoff : Float32) (s : Stream) : Stream :=
  { s with filters := s.filters.map (.redesign rate cutoff) }

theorem cutoff_redesign (rate cutoff : Float32) (s : Stream) :
    (s.redesign rate cutoff).cutoff = cutoff :=
  LowPass.cutoff_redesign rate cutoff s.filters.x

/-- Discards the unread reports. -/
def flush (s : Stream) : Stream := { s with backlog := s.backlog.clear }

/-- Raw counts in the board's frame as a calibrated vector in the body's frame. -/
def calibrate (s : Stream) (mounting : Mounting) (scaling : Scaling) (raw : Axes Int16) :
    Axes Float32 :=
  s.calibration.apply scaling.perCount (mounting.apply (raw.map Binary32.ofInt16))

/-- One vector through the three filters. -/
def filter (s : Stream) (v : Axes Float32) : Axes Float32 × Axes LowPass :=
  let outcome := s.filters.zipWith (·.apply ·) v
  (outcome.map (·.1), outcome.map (·.2))

/-- Turns a raw vector into a report, puts it in the backlog, and says whether a window closed
with it. -/
def accept (s : Stream) (c : Conditions) (scaling : Scaling)
    (temperature : Option DieTemperature) (raw : Axes Int16) : Report × Bool × Stream :=
  let calibrated := s.calibrate c.mounting scaling raw
  let (filtered, filters) := s.filter calibrated
  let (delta, window) := s.window.put c.time calibrated
  let report : Report :=
    { time := c.time
      errors := c.errors
      raw := raw
      calibrated := calibrated
      filtered := filtered
      change := (delta.map (·.change)).getD (.replicate 0)
      duration := (delta.map (·.duration)).getD 0
      scaling := scaling.perCount
      range := scaling.range
      temperature := temperature }
  (report, delta.isSome,
    { s with
      filters := filters
      window := window
      backlog := s.backlog.push report
      closed := if delta.isSome then s.closed + 1 else s.closed })

end Stream

end InertialSensor
