import InertialSensor.Driver.Transfer

/-!
# The measurement cycle

One cycle fetches one data block, verifies one register and, unless the sample is a repeat, empty
or to be withheld, turns it into one report on each stream. A fault on the bus ends the cycle only;
the next one starts anew.
-/

namespace InertialSensor

/-- What a cycle came to. -/
inductive Cycle where
  /-- Nothing was done: a factory test was running, or a recovery holding transfers. -/
  | skipped
  /-- The sample was dropped as a repeat. -/
  | duplicate
  /-- The transfer was good, but its data withheld. -/
  | settling
  /-- A report was made on each stream; says for each whether a window closed with it. -/
  | sampled (closed : PerChannel Bool)

namespace Driver

variable {σ : Type} [Transport σ]

open Routine

/-! ### Transfers -/

/-- Restores the clock source, if a reset left the chip without it. The restoration stays due until
the write succeeds. -/
def restoreClock : Routine σ Unit := do
  let d ← look
  if d.watch.wakePending then do
    writeRaw Register.power ((d.watch.shadow.expected? Register.power).getD Register.bestClock)
    update fun d => { d with watch := d.watch.takeWake.2 }
  else pure ()

/-- Counts a bad transfer. -/
def countBad : Routine σ Unit := tally fun s => { s with badTransfers := s.badTransfers + 1 }

/-- Fetches the data block; a transfer that fails or claims another length is counted as bad. -/
def fetchBlock : Routine σ (Vector UInt8 blockSize) := do
  match ← attempt (readExactly blockSize Register.interruptStatus .high) with
  | .ok block => pure block
  | .error cause =>
    countBad
    fail cause

/-- Carries out on the bus what the watch ordered when it found a value in a register. -/
def recover (address found : UInt8) : Integrity.Recovery → Routine σ Unit
  | .reset deadline => do
    note (.resetOrdered address found deadline)
    writeRaw Register.power Register.resetBit
  | .repair address value deadline => do
    note (.repairOrdered address found value deadline)
    writeRaw address value

/-- Verifies the register at the cursor, and starts a recovery if it holds a wrong value. A register
that cannot be read is tried again in the next cycle. -/
def verifyRegister : Routine σ Unit := do
  let address := (← look).watch.shadow.address
  match ← attempt (readRegister address .high) with
  | .error cause =>
    note (.verificationFailed address cause)
    countBad
  | .ok found =>
    let d ← look
    let (order, watch) := d.watch.check found d.now
    update fun d => { d with watch := watch }
    match order with
    | none => pure ()
    | some order =>
      tally fun s => { s with badRegisters := s.badRegisters + 1 }
      match ← attempt (recover address found order) with
      | .ok () => pure ()
      | .error cause => note (.recoveryWriteFailed cause)

/-! ### Samples -/

/-- Publishes a report whose window closed, unless publication is blocked. -/
def publish (channel : Channel) (report : Report) (closed : Bool) (d : Driver σ) : Driver σ :=
  if closed && !d.muted then { d with published := d.published.push ⟨channel, report⟩ } else d

/-- Turns a sample into a report on each stream, and says for each whether a window closed. -/
def accept (sample : Sample) (d : Driver σ) : PerChannel Bool × Driver σ :=
  let conditions : Conditions := ⟨d.config.mounting, d.now, d.stats.errors⟩
  let temperature : DieTemperature := ⟨sample.temperature, celsius sample.temperature⟩
  let (accelReport, accelClosed, accel) :=
    d.streams.accel.accept conditions (d.scaling .accel) (some temperature)
      (boardFrame sample.accel)
  let (gyroReport, gyroClosed, gyro) :=
    d.streams.gyro.accept conditions (d.scaling .gyro) none (boardFrame sample.gyro)
  let d := { d with streams := ⟨accel, gyro⟩, temperature := temperature.celsius }
  let d := d.publish .accel accelReport accelClosed
  let d := d.publish .gyro gyroReport gyroClosed
  (⟨accelClosed, gyroClosed⟩, d)

/-- Says whether the block repeats the last one and is to be dropped. -/
def examineRepeat (block : Vector UInt8 blockSize) : Routine σ Bool := fun d =>
  let (isRepeat, guard) := d.guard.examine (Sample.accelBytes block)
  (.ok isRepeat, { d with guard := guard })

/-- Counts a good transfer against the recovery in progress; says whether its data is withheld. -/
def settle : Routine σ Bool := fun d =>
  let (withheld, watch) := d.watch.settle
  (.ok withheld, { d with watch := watch })

/-- What becomes of a data block. -/
def digest (block : Vector UInt8 blockSize) : Routine σ Cycle := do
  if ← examineRepeat block then do
    tally fun s => { s with duplicates := s.duplicates + 1 }
    note .repeated
    pure .duplicate
  else
    let sample := Sample.ofBlock block
    if sample.isZero then do
      countBad
      note .zeroSample
      fail .zeroSample
    else do
      tally fun s => { s with goodTransfers := s.goodTransfers + 1 }
      if ← settle then pure .settling
      else fun d =>
        let (closed, d) := d.accept sample
        (.ok (.sampled closed), d)

/-- A cycle does nothing at this moment. -/
def isSuspended (d : Driver σ) : Bool := d.inFactoryTest || d.watch.isHolding d.now

/-- One measurement cycle. -/
def measure : Routine σ Cycle := do
  let d ← look
  if d.isSuspended then pure .skipped
  else do
    restoreClock
    tally fun s => { s with cycles := s.cycles + 1 }
    let block ← fetchBlock
    if d.config.verifies then verifyRegister
    digest block

end Driver

end InertialSensor
