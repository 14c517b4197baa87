import InertialSensor.Driver.Transfer

/-!
# Changing settings

Settings are changed while the driver runs. A setting is first given to the chip and taken over only
once that has succeeded; arguments are refused before anything is touched.
-/

namespace InertialSensor.Driver

variable {σ : Type} [Transport σ]

open Routine

/-- The rate for which filters are designed: that of the cycles, or the chip's output rate while
measuring on demand. -/
def filterRate (d : Driver σ) : Float32 :=
  if 0 < d.pollInterval then 1e6 / d.pollInterval.toFloat32
  else Binary32.ofNat d.inForce.rate.hertz

/-- Sets the microseconds between cycles and designs all filters anew; the chip's one filter
follows the gyro's cutoff. Zero stands for measuring on demand and leaves the filters alone. -/
def setPollInterval (us : UInt64) : Routine σ Unit := do
  update fun d => { d with pollInterval := us }
  if us = 0 then pure ()
  else do
    let rate := 1e6 / us.toFloat32
    update fun d => { d with streams := d.streams.map fun s => s.redesign rate s.cutoff }
    programOnChipFilter (wholeHertz (← look).streams.gyro.cutoff)

/-- Sets the cutoff of a stream's filters, and the chip's own with it. -/
def setLowPass (channel : Channel) (hz : Float32) : Routine σ Unit := do
  if hz.isNaN ∨ hz < 0 then fail (.invalidArgument (.lowPassCutoff hz))
  else do
    programOnChipFilter (wholeHertz hz)
    let rate := (← look).filterRate
    updateStream channel (·.redesign rate hz)
    update fun d => { d with config.cutoffs := d.config.cutoffs.modify channel fun _ => hz }

/-- Sets the chip's output rate. -/
def setSampleRate (hz : Nat) : Routine σ Unit := do
  programRate hz
  update fun d => { d with config.sampleRate := hz }

/-- Sets the accelerometer's full scale to the narrowest that covers `g` times gravity. -/
def setFullScale (g : Nat) : Routine σ Unit := programFullScale g

/-- Sets the capacity of a stream's backlog; unread reports are lost. -/
def setQueueDepth (channel : Channel) (depth : Nat) : Routine σ Unit := do
  match ((← look).streams.get channel).backlog.resize? depth with
  | some backlog => updateStream channel fun s => { s with backlog := backlog }
  | none => fail (.invalidArgument (.queueDepth depth))

/-- Sets a stream's calibration; an implausible one is refused for the accelerometer. -/
def setCalibration (channel : Channel) (c : Calibration) : Routine σ Unit := do
  if channel = .accel ∧ ¬ c.Plausible then fail (.invalidArgument (.accelScaleSum c.scaleSum))
  else updateStream channel fun s => { s with calibration := c }

/-- Forgets the last sample and all unread reports. -/
def forgetHistory : Routine σ Unit :=
  update fun d => { d with guard := {}, streams := d.streams.map (·.flush) }

/-- Blocks or allows publication. -/
def setMuted (muted : Bool) : Routine σ Unit := update fun d => { d with muted := muted }

end InertialSensor.Driver
