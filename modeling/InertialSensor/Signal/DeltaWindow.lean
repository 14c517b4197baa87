import InertialSensor.Axes

/-!
# Windows of integrated change

A signal is integrated by the trapezoidal rule over windows that close once a given time has gone
by. Closing a window yields the change over it and its length, and opens the next one at the same
sample. For angular rates a correction for coning motion is summed beside the change.
-/

namespace InertialSensor

/-- The change over a window, and the window's length in microseconds. -/
structure Delta where
  change : Axes Float32
  duration : UInt64

/-- The state of the integration. -/
structure DeltaWindow where
  /-- Microseconds after which a window closes; with zero none ever does. -/
  interval : UInt64
  /-- Whether coning is corrected. -/
  coning : Bool
  /-- The time of the last sample, zero before the first one. -/
  lastTime : UInt64 := 0
  /-- The time at which the window opened. -/
  openedAt : UInt64 := 0
  lastValue : Axes Float32 := .replicate 0
  /-- The change so far. -/
  sum : Axes Float32 := .replicate 0
  /-- The coning correction so far. -/
  correction : Axes Float32 := .replicate 0
  /-- The change before the last step. -/
  lastSum : Axes Float32 := .replicate 0
  lastStep : Axes Float32 := .replicate 0

/-- Microseconds from one time to a later one, zero if it is not later. -/
def elapsed (earlier later : UInt64) : UInt64 :=
  if earlier ≤ later then later - earlier else 0

namespace DeltaWindow

/-- Microseconds in seconds. -/
def seconds (us : UInt64) : Float32 := us.toFloat32 * 1e-6

/-- The trapezoid between two values. -/
def trapezoid (before after dt : Float32) : Float32 := (after + before) * dt * 0.5

/-- The step from the last sample to a new one. -/
def step (w : DeltaWindow) (time : UInt64) (value : Axes Float32) : Axes Float32 :=
  let dt := seconds (elapsed w.lastTime time)
  w.lastValue.zipWith (fun before after => trapezoid before after dt) value

/-- The window after the step to a new sample. -/
def extend (w : DeltaWindow) (time : UInt64) (value : Axes Float32) : DeltaWindow :=
  let step := w.step time value
  let w := { w with lastTime := time, lastValue := value }
  let w :=
    if w.coning then
      let lead := w.lastSum.zipWith (fun sum step => sum + step / 6.0) w.lastStep
      let cone := lead.cross step
      { w with
        correction := w.correction.zipWith (fun sum c => sum + c * 0.5) cone
        lastStep := step
        lastSum := w.sum }
    else w
  { w with sum := w.sum.zipWith (· + ·) step }

/-- The change over the window as it stands. -/
def total (w : DeltaWindow) : Delta where
  change := if w.coning then w.sum.zipWith (· + ·) w.correction else w.sum
  duration := elapsed w.openedAt w.lastTime

/-- The next window, opened at the last sample. -/
def reopen (w : DeltaWindow) : DeltaWindow :=
  { w with
    openedAt := w.lastTime
    sum := .replicate 0
    correction := .replicate 0
    lastSum := .replicate 0
    lastStep := .replicate 0 }

/-- Closes the window, whatever its length. -/
def close (w : DeltaWindow) : Delta × DeltaWindow := (w.total, w.reopen)

/-- The window is due to close at its last sample. -/
def isDue (w : DeltaWindow) : Bool :=
  0 < w.interval && w.interval ≤ elapsed w.openedAt w.lastTime

/-- Takes a sample. The first one only sets the time; any other one may close the window. -/
def put (w : DeltaWindow) (time : UInt64) (value : Axes Float32) : Option Delta × DeltaWindow :=
  if w.lastTime = 0 then
    (none, { w with lastTime := time, openedAt := time, lastValue := value })
  else
    let w := w.extend time value
    if w.isDue then (some w.total, w.reopen) else (none, w)

end DeltaWindow

end InertialSensor
