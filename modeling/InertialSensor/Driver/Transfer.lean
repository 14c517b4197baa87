import InertialSensor.Driver.State

/-!
# Register access

Single registers are read and written through the transport. A read counts only if it claims
exactly the bytes asked for. `writeChecked` also keeps the value in the shadow, once the write has
succeeded; `writeRaw` does not.
-/

namespace InertialSensor.Driver

variable {σ : Type} [Transport σ]

open Routine

/-- Reads registers into a buffer of zeros, whatever number of bytes is claimed. -/
def readInto (n : Nat) (address : UInt8) (speed : Speed) : Routine σ (Reading n) := fun d =>
  let (result, bus) := Transport.read address speed (Vector.replicate n 0) d.bus
  (result.mapError .bus, { d with bus := bus })

/-- Reads exactly `n` registers. -/
def readExactly (n : Nat) (address : UInt8) (speed : Speed) : Routine σ (Vector UInt8 n) := do
  let reading ← readInto n address speed
  if reading.count = n then pure reading.bytes else fail (.transfer n reading.count)

/-- Reads one register. -/
def readRegister (address : UInt8) (speed : Speed) : Routine σ UInt8 := do
  let bytes ← readExactly 1 address speed
  pure bytes[0]

/-- Writes one register. -/
def writeRaw (address value : UInt8) : Routine σ Unit := fun d =>
  let (result, bus) := Transport.write address value d.bus
  (result.mapError .bus, { d with bus := bus })

/-- Writes one register and keeps the value as what it should hold. -/
def writeChecked (address value : UInt8) : Routine σ Unit := do
  writeRaw address value
  update fun d => { d with watch := d.watch.record address value }

/-! ### Settings of the chip -/

/-- Gives the chip an output rate. -/
def programRate (hz : Nat) : Routine σ Unit := do
  let rate := OutputRate.forHertz hz
  writeChecked Register.rateDivider rate.registerValue
  update fun d => { d with inForce.rate := rate }

/-- Gives the chip's own filter a cutoff, which the configuration takes over. -/
def programOnChipFilter (hz : Nat) : Routine σ Unit := do
  let setting := OnChipFilter.forCutoff hz
  writeChecked Register.filterConfig setting.registerValue
  update fun d => { d with inForce.onChipFilter := setting, config.onChipCutoff := hz }

/-- Gives the accelerometer a full scale, which the configuration takes over. -/
def programFullScale (g : Nat) : Routine σ Unit := do
  let scale := FullScale.covering g
  writeChecked Register.accelConfig scale.registerValue
  update fun d =>
    { d with
      inForce.fullScale := scale
      inForce.perCount.accel := scale.scale
      config.rangeG := scale.multiple }

end InertialSensor.Driver
