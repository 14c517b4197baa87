import InertialSensor.Polling.Instrument
import InertialSensor.Simulation.Sensor

/-!
# Recovery demonstration

Registers of a simulated sensor are corrupted behind the driver's back, and every cycle's outcome
shows how the driver finds and repairs them. Equal outcomes in a row are shown once with their
number.
-/

namespace InertialSensor.CommandLine.Demonstration

open Simulation (Sensor)

/-- Microseconds between cycles. -/
def stepLength : UInt64 := 1000

/-- An outcome in words. -/
def outcomeText : Cycle → String
  | .skipped => "Skipped"
  | .duplicate => "Duplicate"
  | .settling => "Settling"
  | .sampled closed =>
    "Sampled \x7b accel_window_closed: " ++ toString closed.accel ++
      ", gyro_window_closed: " ++ toString closed.gyro ++ " \x7d"

/-- One cycle after a step of the clock. -/
def cycle : Routine Sensor Cycle := do
  Routine.delay stepLength
  Driver.measure

/-- A number of cycles; the first failure ends them. -/
def cycles : Nat → Routine Sensor (List Cycle)
  | 0 => pure []
  | n + 1 => do
    let first ← cycle
    let rest ← cycles n
    pure (first :: rest)

/-- Lines, with the number of lines in a row that are equal to the one before. -/
def runs (lines : List String) : List (String × Nat) :=
  lines.foldr
    (fun line groups =>
      match groups with
      | (next, n) :: rest => if next = line then (line, n + 1) :: rest else (line, 1) :: groups
      | [] => [(line, 1)])
    []

/-- The lines that show a list of outcomes. -/
def outcomeLines (outcomes : List Cycle) : List String :=
  (runs (outcomes.map outcomeText)).flatMap fun (line, n) =>
    ("  " ++ line) :: if 1 < n then [s!"    ... x{n}"] else []

/-- Overwrites a register without the driver's knowledge. -/
def corrupt (address value : UInt8) : Routine Sensor Unit :=
  Routine.update fun d => { d with bus := (d.bus.corrupt? address value).getD d.bus }

/-- All lines of the demonstration. -/
def script : Routine Sensor (List String) := do
  Driver.initialise
  let healthy ← cycles 10
  corrupt Register.power Register.asleep
  let clockLost ← cycles 60
  let resets := (← Routine.look).bus.resets
  corrupt Register.power Register.asleep
  let before ← cycles 14
  corrupt Register.filterConfig 0
  let filterLost ← cycles 60
  let summary ← Driver.summarise
  pure <|
    ["Healthy sampling:"] ++ outcomeLines healthy ++
    ["", "Clock source lost (PWR_MGMT_1 back to its power-on value):"] ++ outcomeLines clockLost ++
    [s!"Full resets issued: {resets}", "", "DLPF setting lost while still settling:"] ++
    outcomeLines before ++ outcomeLines filterLost ++ "" :: summary.lines

/-- The lines above everything else. -/
def title : List String := ["Recovery Example", "================", ""]

/-- The lines and the log of the demonstration. -/
def run : Except Failure (List String) × List Event :=
  let driver := Driver.new (Sensor.new .internal) Clock.start {}
  let (result, d) := script { driver with logging := true }
  (result.map (title ++ ·), d.log.toList)

end InertialSensor.CommandLine.Demonstration
