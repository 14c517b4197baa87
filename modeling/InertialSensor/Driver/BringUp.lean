import InertialSensor.Driver.Transfer

/-!
# Bring-up

From power-on to sampling: the identity of the chip is verified, the chip is reset in at most four
attempts until it runs from its best clock, and the configuration is written register by register.
-/

namespace InertialSensor.Driver

variable {σ : Type} [Transport σ]

open Routine

/-- Verifies that the right chip answers. -/
def probe : Routine σ Unit := do
  let found ← readRegister Register.identity .low
  if found = Register.identityValue then note (.identified found) else fail (.wrongIdentity found)

/-! ### Reset -/

/-- Attempts to reset before giving up. -/
def resetAttempts : Nat := 4

/-- Microseconds for the chip to answer again after a reset. -/
def resetSettle : UInt64 := 10000

/-- Microseconds for a new clock source to settle. -/
def clockSettle : UInt64 := 1000

/-- Microseconds before another attempt to reset. -/
def resetRetry : UInt64 := 2000

/-- Microseconds after each write of the configuration. -/
def configSettle : UInt64 := 1000

/-- One attempt to reset the chip; says whether the chip then runs from its best clock. -/
def tryReset : Routine σ Bool := do
  writeRaw Register.power Register.resetBit
  delay resetSettle
  let status ← readRegister Register.power .high
  if status &&& Register.resetBit ≠ 0 then pure false
  else do
    writeChecked Register.power Register.bestClock
    delay clockSettle
    let source ← readRegister Register.power .low
    pure (source = Register.bestClock)

/-- What is noted down about a vain attempt. -/
def vainAttempt (number : Nat) : Except Failure Bool → Event
  | .ok _ => .resetIneffective number
  | .error cause => .resetFailed number cause

/-- Attempts to reset, counted from `number` on, until one takes or none of `left` is left; says
whether one took. Each vain attempt is counted and followed by a pause. -/
def attemptResets (number : Nat) : (left : Nat) → Routine σ Bool
  | 0 => pure false
  | left + 1 => do
    match ← attempt tryReset with
    | .ok true =>
      note (.resetTook number)
      pure true
    | result =>
      note (vainAttempt number result)
      tally fun s => { s with resetRetries := s.resetRetries + 1 }
      delay resetRetry
      attemptResets (number + 1) left

/-- Writes the whole configuration, with a pause after each write. -/
def configure : Routine σ Unit := do
  writeChecked Register.userControl 0
  delay configSettle
  programRate (← look).config.sampleRate
  delay configSettle
  programOnChipFilter (← look).config.onChipCutoff
  delay configSettle
  writeChecked Register.gyroConfig Register.gyroWidest
  update fun d => { d with inForce.perCount.gyro := gyroScale }
  delay configSettle
  programFullScale (← look).config.rangeG
  delay configSettle
  writeChecked Register.interruptEnable Register.dataReady
  delay configSettle
  writeChecked Register.interruptPin Register.anyReadClears
  delay (2 * configSettle)

/-- Resets and configures the chip, and forgets any recovery in progress. -/
def reset : Routine σ Unit := do
  if ← attemptResets 1 resetAttempts then do
    configure
    update fun d => { d with watch := d.watch.clear }
  else do
    note (.resetsExhausted resetAttempts)
    fail (.unavailable resetAttempts)

/-- Brings the sensor up. -/
def initialise : Routine σ Unit := do
  probe
  reset
  let d ← look
  note (.ready d.inForce.rate d.inForce.fullScale.multiple d.inForce.onChipFilter)

end InertialSensor.Driver
