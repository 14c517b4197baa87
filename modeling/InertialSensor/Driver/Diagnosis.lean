import InertialSensor.Driver.Transfer

/-!
# Diagnosis

A dump of the chip's registers, a slow read of the data block that provokes a recoverable fault,
and a summary of counters, backlogs and registers that do not hold what they should.
-/

namespace InertialSensor

/-- A checked register with a wrong value. -/
structure Mismatch where
  address : UInt8
  expected : UInt8
  actual : UInt8
deriving DecidableEq

/-- The state of a backlog. -/
structure Occupancy where
  size : Nat
  capacity : Nat
  overwritten : Nat
deriving DecidableEq

def Occupancy.of {α : Type} (b : Backlog α) : Occupancy := ⟨b.size, b.capacity, b.overwritten⟩

/-- The state of the driver at a glance. -/
structure Summary where
  stats : Stats
  pollInterval : UInt64
  backlogs : PerChannel Occupancy
  /-- The place of the register verified next. -/
  cursor : Nat
  settling : Nat
  /-- The end of the last recovery's hold, zero if there was none. -/
  holdUntil : UInt64
  mismatches : List Mismatch
  temperature : Float32

namespace Summary

/-- The lines of a summary. -/
def lines (s : Summary) : List String :=
  [s!"cycles:          {s.stats.cycles}",
    s!"accel reads:     {s.stats.reads.accel}",
    s!"gyro reads:      {s.stats.reads.gyro}",
    s!"bad transfers:   {s.stats.badTransfers}",
    s!"bad registers:   {s.stats.badRegisters}",
    s!"good transfers:  {s.stats.goodTransfers}",
    s!"reset retries:   {s.stats.resetRetries}",
    s!"duplicates:      {s.stats.duplicates}",
    if s.pollInterval = 0 then "poll:            manual"
    else s!"poll interval:   {s.pollInterval} us",
    "accel queue:     " ++ queue s.backlogs.accel,
    "gyro queue:      " ++ queue s.backlogs.gyro,
    s!"checked_next:    {s.cursor}",
    s!"register wait:   {s.settling}"] ++
  (if 0 < s.holdUntil then [s!"recovery until:  {s.holdUntil} us"] else []) ++
  s.mismatches.map (fun m =>
    s!"reg 0x{Hex.byte m.address} is 0x{Hex.byte m.actual} should be 0x{Hex.byte m.expected}") ++
  [s!"temperature:     {Binary32.fixedText 1 s.temperature} C"]
where
  /-- A backlog's size, capacity and losses. -/
  queue (b : Occupancy) : String := s!"{b.size}/{b.capacity} ({b.overwritten} overwritten)"

def text (s : Summary) : String := "\n".intercalate s.lines

end Summary

namespace Driver

variable {σ : Type} [Transport σ]

open Routine

/-- Reads registers one by one; the first failure ends it. -/
def readAll : List UInt8 → Routine σ (List (UInt8 × UInt8))
  | [] => pure []
  | address :: rest => do
    let value ← readRegister address .low
    let others ← readAll rest
    pure ((address, value) :: others)

/-- All registers up to the last one dumped, with their content. -/
def dumpRegisters : Routine σ (List (UInt8 × UInt8)) :=
  readAll ((List.range (Register.lastDumped + 1)).map (·.toUInt8))

/-- Writes out the data block, cut to the bytes that its transfer claimed. A claim beyond the block
cannot be written out. -/
def noteSlowBlock (reading : Reading blockSize) : Routine σ Unit := do
  let d ← look
  if d.logging && blockSize < reading.count then fail (.outOfBounds reading.count blockSize)
  else note (.slowBlock reading.count (reading.bytes.toList.take reading.count))

/-- Reads the data block with the slow clock while measuring is suspended, then dumps the
registers. -/
def provokeSlowRead : Routine σ (List (UInt8 × UInt8)) := do
  update fun d => { d with inFactoryTest := true }
  let result ← attempt (readInto blockSize Register.interruptStatus .low)
  update fun d => { d with inFactoryTest := false }
  match result with
  | .error cause => fail cause
  | .ok reading =>
    noteSlowBlock reading
    dumpRegisters

/-- Compares registers with the values they should hold; one that cannot be read is passed over. -/
def findMismatches : List (UInt8 × UInt8) → Routine σ (List Mismatch)
  | [] => pure []
  | (address, expected) :: rest => do
    match ← attempt (readRegister address .low) with
    | .ok actual =>
      let others ← findMismatches rest
      if actual = expected then pure others else pure (⟨address, expected, actual⟩ :: others)
    | .error cause =>
      note (.unreadable address cause)
      findMismatches rest

/-- The state of the driver at a glance, with a fresh look at every checked register. -/
def summarise : Routine σ Summary := do
  let mismatches ← findMismatches (← look).watch.shadow.entries
  let d ← look
  pure
    { stats := d.stats
      pollInterval := d.pollInterval
      backlogs := d.streams.map fun s => .of s.backlog
      cursor := d.watch.shadow.cursor
      settling := d.watch.settling
      holdUntil := d.watch.holdUntil
      mismatches := mismatches
      temperature := d.temperature }

end Driver

end InertialSensor
