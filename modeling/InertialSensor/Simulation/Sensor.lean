import InertialSensor.Chip.Register
import InertialSensor.Chip.Scale
import InertialSensor.Hex
import InertialSensor.Signal.Sample
import InertialSensor.Transport

/-!
# Simulated sensor

A register file that behaves like the chip: a reset restores the power-on content, and reading the
data block loads the next sample of a script, or a made-up one once the script is empty. Faults can
be put in: samples of zeros, transfers one byte short, resets that do not take, and a sensor that
does not answer. Every transfer is logged.
-/

namespace InertialSensor.Simulation

/-- A logged transfer. -/
inductive Entry where
  | read (address : UInt8) (speed : Speed) (length : Nat)
  | write (address value : UInt8)
deriving DecidableEq

/-- The reasons for which the simulated sensor refuses a transfer. -/
inductive Refusal where
  | noResponse
  /-- A write to a register that does not exist. -/
  | outOfRange (address : UInt8)
  /-- A read that starts past the end of the register file. -/
  | pastEnd (address : UInt8)

def Refusal.text : Refusal → String
  | noResponse => "no response from sensor"
  | outOfRange address => s!"register 0x{Hex.byte address} out of range"
  | pastEnd address => s!"register 0x{Hex.byte address} past the end"

/-- The register file. -/
abbrev RegisterFile := Vector UInt8 Register.count

/-- The state of the simulated sensor. -/
structure Sensor where
  registers : RegisterFile
  /-- Transfers, the latest first. -/
  log : List Entry := []
  /-- Samples to be served, the next one first. -/
  script : List Sample := []
  /-- The number of samples made up so far, modulo 2^16. -/
  madeUp : UInt16 := 0
  /-- The number of reads of the data block. -/
  blockReads : Nat := 0
  /-- The number of resets. -/
  resets : Nat := 0
  /-- Reads of the data block that are yet to deliver zeros. -/
  zeroSamples : Nat := 0
  /-- Reads of the data block that are yet to come back one byte short. -/
  shortReads : Nat := 0
  /-- Resets that are yet not to take. -/
  stuckResets : Nat := 0
  silent : Bool := false
  placement : Placement := .internal

namespace Sensor

/-- The content of the register file after power-on. -/
def powerOn : RegisterFile :=
  ((Vector.replicate Register.count (0 : UInt8)).set 0x6B Register.asleep).set 0x75
    Register.identityValue

/-- A sensor after power-on. -/
def new (placement : Placement) : Sensor := { registers := powerOn, placement := placement }

/-! ### Looking in and interfering -/

/-- The content of a register, if it exists. -/
def register? (address : UInt8) (s : Sensor) : Option UInt8 := s.registers[address.toNat]?

/-- Overwrites a register without a transfer, if it exists. -/
def corrupt? (address value : UInt8) (s : Sensor) : Option Sensor :=
  if h : address.toNat < Register.count then
    some { s with registers := s.registers.set address.toNat value }
  else none

/-- Appends samples to the script. -/
def enqueue (samples : List Sample) (s : Sensor) : Sensor :=
  { s with script := s.script ++ samples }

/-- The number of latest transfers that are remembered. -/
def logCapacity : Nat := 4096

/-- The remembered transfers, oldest first. -/
def history (s : Sensor) : List Entry := (s.log.take logCapacity).reverse

/-- The values written to a register by the remembered transfers, oldest first. -/
def writesTo (address : UInt8) (s : Sensor) : List UInt8 :=
  s.history.filterMap fun
    | .write a value => if a = address then some value else none
    | .read .. => none

/-! ### Samples -/

/-- The sample made up as number `n`: a level board with a ramp on the first accel axis, so that
consecutive samples differ. -/
def madeUpSample (scale : FullScale) (n : UInt16) : Sample :=
  let ramp : Int := (n % 64).toNat - 32
  { accel := ⟨Int16.ofInt ramp, 0, Int16.ofNat scale.countsPerG⟩
    temperature := 1634
    gyro := ⟨0, Int16.ofInt (ramp.tdiv 4), 0⟩ }

/-- The next sample to be served, and the sensor without it. -/
def nextSample (s : Sensor) : Sample × Sensor :=
  if 0 < s.zeroSamples then
    (⟨.replicate 0, 0, .replicate 0⟩, { s with zeroSamples := s.zeroSamples - 1 })
  else
    match s.script with
    | sample :: rest => (sample, { s with script := rest })
    | [] =>
      let n := s.madeUp + 1
      (madeUpSample (.ofRegisterValue s.registers[0x1C]) n, { s with madeUp := n })

/-- The register file with a list of bytes stored from an address on; bytes past the end are
lost. -/
def store : List UInt8 → Nat → RegisterFile → RegisterFile
  | [], _, r => r
  | b :: bs, i, r => store bs (i + 1) (r.setIfInBounds i b)

/-- Loads the next sample into the data registers. -/
def loadSample (s : Sensor) : Sensor :=
  let (sample, s) := s.nextSample
  let block := sample.block Register.dataReady
  { s with
    blockReads := s.blockReads + 1
    registers := store block.toList Register.interruptStatus.toNat s.registers }

/-! ### Transfers -/

/-- The registers from an address on, in front of what the buffer held. -/
def copyOut {n : Nat} (r : RegisterFile) (start : Nat) (buffer : Vector UInt8 n) : Vector UInt8 n :=
  Vector.ofFn fun i => r[start + i]?.getD buffer[i]

/-- Reads consecutive registers into a buffer. Reading more than the status register from its
address on loads the next sample first. -/
def read {n : Nat} (address : UInt8) (speed : Speed) (buffer : Vector UInt8 n) (s : Sensor) :
    Except Refusal (Reading n) × Sensor :=
  let s := { s with log := .read address speed n :: s.log }
  if s.silent then (.error .noResponse, s)
  else if Register.count < address.toNat then (.error (.pastEnd address), s)
  else
    let isBlock := address = Register.interruptStatus ∧ 1 < n
    let s := if isBlock then s.loadSample else s
    let bytes := copyOut s.registers address.toNat buffer
    let available := min (Register.count - address.toNat) n
    if isBlock ∧ 0 < s.shortReads then
      (.ok ⟨bytes, available - 1⟩, { s with shortReads := s.shortReads - 1 })
    else (.ok ⟨bytes, available⟩, s)

/-- The sensor after a reset, which either takes or leaves the reset bit set. -/
def reset (s : Sensor) : Sensor :=
  let s := { s with resets := s.resets + 1, registers := powerOn }
  if 0 < s.stuckResets then
    { s with
      stuckResets := s.stuckResets - 1
      registers := s.registers.set 0x6B (Register.asleep ||| Register.resetBit) }
  else s

/-- Writes one register. The reset bit resets the sensor; the identity and status registers keep
their content. -/
def write (address value : UInt8) (s : Sensor) : Except Refusal Unit × Sensor :=
  let s := { s with log := .write address value :: s.log }
  if s.silent then (.error .noResponse, s)
  else if address = Register.power ∧ value &&& Register.resetBit ≠ 0 then (.ok (), s.reset)
  else if address = Register.identity ∨ address = Register.interruptStatus then (.ok (), s)
  else if h : address.toNat < Register.count then
    (.ok (), { s with registers := s.registers.set address.toNat value })
  else (.error (.outOfRange address), s)

/-- The device id of a simulated sensor. -/
def deviceId (s : Sensor) : UInt32 :=
  InertialSensor.deviceId .simulated (if s.placement = .external then 1 else 0) 0 chipTag

instance : Transport Sensor where
  read address speed buffer s := let (r, s) := s.read address speed buffer; (r.mapError (·.text), s)
  write address value s := let (r, s) := s.write address value; (r.mapError (·.text), s)
  placement s := s.placement
  deviceId s := s.deviceId

end Sensor

end InertialSensor.Simulation
