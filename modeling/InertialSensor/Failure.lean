import InertialSensor.Binary32.Decimal
import InertialSensor.Hex
import InertialSensor.Signal.Backlog
import InertialSensor.Transport

/-!
# Failures

The causes for which a request fails, each with one text.
-/

namespace InertialSensor

/-- The reasons for which an argument is refused. -/
inductive Rejection where
  | queueDepth (depth : Nat)
  | lowPassCutoff (hz : Float32)
  | accelScaleSum (sum : Float32)
  | externalPolling
  | zeroPollRate
  | pollRateAbove (hz limit : Nat)
  | mountingIndex (index : Nat)
  /-- A reason given in words. -/
  | stated (text : String)

def Rejection.text : Rejection → String
  | queueDepth depth => s!"Queue depth must be 1-{Backlog.maxCapacity}, got {depth}"
  | lowPassCutoff hz => s!"Low-pass cutoff must be >= 0 Hz, got {Binary32.text hz}"
  | accelScaleSum sum => s!"Accel scale sum {Binary32.text sum} outside (2, 4)"
  | externalPolling => "external polling is not supported"
  | zeroPollRate => "poll rate must be > 0 Hz"
  | pollRateAbove hz limit => s!"poll rate {hz} Hz above {limit} Hz"
  | mountingIndex index => s!"rotation index {index} out of range"
  | stated text => text

/-- The causes for which a request fails. -/
inductive Failure where
  /-- The transport failed, with its own text. -/
  | bus (text : String)
  /-- A transfer moved a wrong number of bytes. -/
  | transfer (expected actual : Nat)
  /-- Every word of a sample was zero. -/
  | zeroSample
  /-- No reset took. -/
  | unavailable (attempts : Nat)
  /-- The identity register holds something else. -/
  | wrongIdentity (found : UInt8)
  | invalidArgument (reason : Rejection)
  | noData
  /-- Zero reports were asked for. -/
  | bufferTooSmall
  | alreadyStarted (placement : Placement)
  /-- The instrument behind a front end is gone. -/
  | notRunning
  | unsupported (text : String)
  | storage (text : String)
  | io (text : String)
  /-- Bytes past the end of a buffer were asked for. No sensor answers so and no caller handles
  it; the call that asked ends at once. -/
  | outOfBounds (index size : Nat)

namespace Failure

def message : Failure → String
  | bus text => s!"Bus error: {text}"
  | transfer expected actual =>
    s!"Data transfer error: expected {expected} bytes, transferred {actual}"
  | zeroSample => "All-zero sample, probable bus error"
  | unavailable attempts => s!"Sensor did not come out of reset after {attempts} attempts"
  | wrongIdentity found => s!"Invalid WHO_AM_I response: expected 0x12, got 0x{Hex.byte found}"
  | invalidArgument reason => s!"Invalid argument: {reason.text}"
  | noData => "No data available"
  | bufferTooSmall => "Read buffer too small"
  | alreadyStarted placement => s!"Driver already started on {placement.text} bus"
  | notRunning => "Driver not running"
  | unsupported text => s!"Operation not supported: {text}"
  | storage text => s!"Storage error: {text}"
  | io text => s!"I/O error: {text}"
  | outOfBounds index size => s!"index {index} out of bounds, size {size}"

end Failure

end InertialSensor
