import InertialSensor.Chip.Rate
import InertialSensor.Failure
import InertialSensor.Transport

/-!
# Log

What the driver notes down while it works. An event is a cause with its data; its level and its
text are functions of it.
-/

namespace InertialSensor

/-- The weight of an event. -/
inductive Level where
  | error
  | warn
  | info
  | debug
  | trace
deriving DecidableEq, Repr

namespace Level

def name : Level → String
  | error => "ERROR"
  | warn => "WARN"
  | info => "INFO"
  | debug => "DEBUG"
  | trace => "TRACE"

/-- Zero for the heaviest. -/
def rank : Level → Nat
  | error => 0
  | warn => 1
  | info => 2
  | debug => 3
  | trace => 4

end Level

/-- What can be noted down. -/
inductive Event where
  /-- The identity register answered as it should. -/
  | identified (value : UInt8)
  | resetTook (attempt : Nat)
  | resetIneffective (attempt : Nat)
  | resetFailed (attempt : Nat) (cause : Failure)
  /-- No attempt to reset took. -/
  | resetsExhausted (attempts : Nat)
  /-- Bring-up is complete. -/
  | ready (rate : OutputRate) (rangeG : Nat) (filter : OnChipFilter)
  /-- The register due for verification could not be read. -/
  | verificationFailed (address : UInt8) (cause : Failure)
  /-- A wrong register made a reset necessary. -/
  | resetOrdered (address found : UInt8) (deadline : UInt64)
  /-- A wrong register is repaired. -/
  | repairOrdered (address found expected : UInt8) (deadline : UInt64)
  | recoveryWriteFailed (cause : Failure)
  /-- A sample was dropped as a repeat. -/
  | repeated
  | zeroSample
  /-- The measurement that a self test needs failed. -/
  | selfTestFailed (cause : Failure)
  /-- The data block as read with the slow clock, cut to the bytes claimed. -/
  | slowBlock (count : Nat) (bytes : List UInt8)
  | unreadable (address : UInt8) (cause : Failure)
  | cycleFailed (cause : Failure)
  | samplingStarted
  | samplingStopped
  /-- Periodic sampling runs at a rate given in words. -/
  | samplingAt (rate : String)
  | instrumentStarted (placement : Placement)
  | instrumentStopped (placement : Placement)
  | deviceFound (id : UInt32) (placement : Placement)
  /-- A command ended with a failure. -/
  | commandFailed (cause : Failure)

namespace Event

def level : Event → Level
  | resetsExhausted _ | commandFailed _ => .error
  | resetIneffective _ | resetFailed .. | resetOrdered .. | repairOrdered ..
  | recoveryWriteFailed _ | unreadable .. => .warn
  | ready .. | slowBlock .. | samplingStarted | samplingStopped | samplingAt _
  | instrumentStarted _ | instrumentStopped _ | deviceFound .. => .info
  | identified _ | resetTook _ | verificationFailed .. | zeroSample | selfTestFailed _
  | cycleFailed _ => .debug
  | repeated => .trace

def text : Event → String
  | identified value => s!"WHO_AM_I 0x{Hex.byte value}"
  | resetTook attempt => s!"Reset took on attempt {attempt}"
  | resetIneffective attempt => s!"Reset attempt {attempt} did not take"
  | resetFailed attempt cause => s!"Reset attempt {attempt} failed: {cause.message}"
  | resetsExhausted attempts => s!"Sensor did not come out of reset after {attempts} attempts"
  | ready rate rangeG filter =>
    s!"ICM-20602 ready: {rate.hertz} Hz, +/-{rangeG} g, DLPF {filter.name}"
  | verificationFailed address cause =>
    s!"Checked read of 0x{Hex.byte address} failed: {cause.message}"
  | resetOrdered address found deadline =>
    s!"Register 0x{Hex.byte address} read 0x{Hex.byte found}: full reset, holding until " ++
      s!"{deadline} us"
  | repairOrdered address found expected deadline =>
    s!"Register 0x{Hex.byte address} read 0x{Hex.byte found}, rewriting " ++
      s!"0x{Hex.byte expected}, holding until {deadline} us"
  | recoveryWriteFailed cause => s!"Recovery write failed: {cause.message}"
  | repeated => "Duplicate accel sample"
  | zeroSample => "All-zero sample"
  | selfTestFailed cause => s!"Self-test measurement failed: {cause.message}"
  | slowBlock count bytes => s!"Low-speed data block ({count} bytes): {Hex.bytes bytes}"
  | unreadable address cause => s!"Could not read 0x{Hex.byte address}: {cause.message}"
  | cycleFailed cause => s!"Cycle failed: {cause.message}"
  | samplingStarted => "Sampling started"
  | samplingStopped => "Sampling stopped"
  | samplingAt rate => s!"Sampling at {rate}"
  | instrumentStarted placement => s!"Started driver on {placement.text} bus"
  | instrumentStopped placement => s!"Stopped driver on {placement.text} bus"
  | deviceFound id placement => s!"Device id 0x{Hex.lower 8 id.toNat} on {placement.text} bus"
  | commandFailed cause => cause.message

end Event

end InertialSensor
