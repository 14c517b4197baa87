import InertialSensor.Driver.Diagnosis
import InertialSensor.Signal.Report

/-!
# Listings

The lines in which commands show registers and reports.
-/

namespace InertialSensor.CommandLine

open Binary32

/-- A register and its content. -/
def cell (entry : UInt8 × UInt8) : String :=
  padLeft 3 (toString entry.1.toNat) ++ ":" ++ Hex.lower 2 entry.2.toNat

/-- Registers in rows of eight. -/
def dumpRows (dump : List (UInt8 × UInt8)) : List String :=
  (List.range ((dump.length + 7) / 8)).map fun row =>
    " ".intercalate (((dump.drop (8 * row)).take 8).map cell)

/-- A list in brackets. -/
def bracketed (items : List String) : String := "[" ++ ", ".intercalate items ++ "]"

/-- Three numbers with three places each. -/
def vector (v : Axes Float32) : String :=
  "[" ++ " ".intercalate (v.toList.map fun x => padLeft 7 (fixedText 3 x)) ++ "]"

/-- The die temperature of a report in degrees Celsius. -/
def celsiusOf (r : Report) : Float32 := (r.temperature.map (·.celsius)).getD 0

/-- One report of each stream on a line. -/
def reportLine (accel gyro : Report) : String :=
  padLeft 12 (toString accel.time.toNat) ++ " us  accel " ++ vector accel.filtered ++
    " m/s^2  gyro " ++ vector gyro.filtered ++ " rad/s  " ++
    padLeft 5 (fixedText 1 (celsiusOf accel)) ++ " C"

/-- The raw and the calibrated vector of a report. -/
def valueLines (r : Report) (unit : String) : List String :=
  ["  raw:        " ++ bracketed (r.raw.toList.map fun n => toString n.toInt),
    "  calibrated: " ++ bracketed (r.calibrated.toList.map exactText) ++ " " ++ unit]

/-- A report of the accelerometer in full. -/
def accelLines (r : Report) (fullScale : Nat) : List String :=
  "ACCEL" :: valueLines r "m/s^2" ++
    [s!"  range:      {fullScale} g ({fixedText 2 r.range} m/s^2)",
      "  temp:       " ++ fixedText 2 (celsiusOf r) ++ " C (raw " ++
        toString ((r.temperature.map (·.raw.toInt)).getD 0) ++ ")"]

/-- A report of the gyro in full. -/
def gyroLines (r : Report) (fullScale : Nat) : List String :=
  "GYRO" :: valueLines r "rad/s" ++
    [s!"  range:      {fullScale} dps ({fixedText 2 r.range} rad/s)"]

/-- The verdict of a self test. -/
def verdict (passed : Bool) : String := if passed then "PASS" else "FAIL"

end InertialSensor.CommandLine
