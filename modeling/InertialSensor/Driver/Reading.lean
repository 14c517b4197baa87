import InertialSensor.Driver.Cycle

/-!
# Reading reports

Reports are read from the backlog of a stream, oldest first. While the sensor is measured on demand
the backlog is emptied and one cycle is run first, so that a read never answers with anything older
than the call.
-/

namespace InertialSensor.Driver

variable {σ : Type} [Transport σ]

open Routine

/-- Takes up to `max` reports off a backlog. -/
def takeReports (channel : Channel) (max : Nat) : Routine σ (List Report) := fun d =>
  let (reports, backlog) := (d.streams.get channel).backlog.take max
  (.ok reports,
    { d with streams := d.streams.modify channel fun s => { s with backlog := backlog } })

/-- Up to `max` reports of a stream, oldest first. -/
def read (channel : Channel) (max : Nat) : Routine σ (List Report) := do
  if max = 0 then fail .bufferTooSmall
  else do
    if (← look).pollInterval = 0 then do
      updateStream channel (·.flush)
      let _ ← measure
    tally fun s => { s with reads := s.reads.modify channel (· + 1) }
    let reports ← takeReports channel max
    if reports.isEmpty then fail .noData else pure reports

/-! ### Self tests -/

/-- Runs one cycle if none has gone to the bus yet; says whether one has now. -/
def ensureSampled : Routine σ Bool := do
  if (← look).stats.cycles = 0 then do
    match ← attempt measure with
    | .ok _ => pure ()
    | .error cause => note (.selfTestFailed cause)
  pure (0 < (← look).stats.cycles)

/-- Whether a stream's calibration looks sound. -/
def selfTest (channel : Channel) : Routine σ Bool := do
  if ← ensureSampled then do
    let d ← look
    match channel with
    | .accel => pure d.streams.accel.calibration.accelPasses
    | .gyro => pure d.streams.gyro.calibration.gyroPasses
  else pure false

end InertialSensor.Driver
