import InertialSensor.Driver.Operation
import InertialSensor.Polling.Sampler

/-!
# Instruments

An instrument owns a driver and may sample periodically. Its two front ends, one for each stream,
work on the same driver and fail once the owner has let the instrument go.

Whether the sampler runs is a flag: its cycles are those of `tick`, and nothing else runs beside
them.
-/

namespace InertialSensor

/-- How often an instrument is asked to measure. -/
inductive Polling where
  /-- Only when something is read. -/
  | manual
  /-- On an outside signal, which is not supported. -/
  | external
  | max
  | standard
  | hertz (hz : Nat)
deriving DecidableEq

namespace Polling

/-- The highest rate in hertz; the chip has no fresh sample more often. -/
def maxRate : Nat := 1000

/-- The microseconds between cycles that a request asks for, zero for measuring on demand. -/
def interval : Polling → Except Rejection Nat
  | manual => .ok 0
  | external => .error .externalPolling
  | max => .ok (1000000 / maxRate)
  | standard => .ok (1000000 / defaultPollRate)
  | hertz hz =>
    if hz = 0 then .error .zeroPollRate
    else if 1000000 / hz < 1000000 / maxRate then .error (.pollRateAbove hz maxRate)
    else .ok (1000000 / hz)

/-- The request that an interval in microseconds answers. -/
def ofInterval (us : UInt64) : Polling :=
  if us = 0 then manual else hertz (1000000 / us.toNat)

/-- The mode in words. -/
def text : Polling → String
  | manual => "Manual"
  | external => "External"
  | max => "Max"
  | standard => "Default"
  | hertz hz => s!"Hz({hz})"

end Polling

/-- A driver, and whether it is sampled periodically. -/
structure Instrument (σ : Type) where
  driver : Driver σ
  sampling : Bool := false
  /-- The owner has let the instrument go. -/
  released : Bool := false
  /-- Time goes by while the instrument waits. -/
  realTime : Bool := false

namespace Instrument

variable {σ : Type} [Transport σ] {α : Type}

/-- Runs a routine on the driver. -/
def run (x : Routine σ α) (i : Instrument σ) : Except Failure α × Instrument σ :=
  let (result, driver) := x i.driver
  (result, { i with driver := driver })

/-- Changes the driver. -/
def update (f : Driver σ → Driver σ) (i : Instrument σ) : Instrument σ :=
  { i with driver := f i.driver }

/-- Notes an event down. -/
def note (e : Event) (i : Instrument σ) : Instrument σ :=
  i.update fun d => { d with log := d.log.push e }

/-- Forgets the last sample and all unread reports. -/
def forgetHistory (i : Instrument σ) : Instrument σ := (i.run Driver.forgetHistory).2

/-! ### Periodic sampling -/

/-- Ends periodic sampling and discards unread reports; nothing happens if there is none. -/
def stopSampling (i : Instrument σ) : Instrument σ :=
  if i.sampling then ({ i with sampling := false }.note .samplingStopped).forgetHistory else i

/-- Begins periodic sampling anew, without a memory of earlier samples. -/
def startSampling (i : Instrument σ) : Instrument σ :=
  { i.stopSampling.forgetHistory with sampling := true }.note .samplingStarted

/-- Changes the polling mode. -/
def setPolling (p : Polling) (i : Instrument σ) : Except Failure Unit × Instrument σ :=
  match p.interval with
  | .error reason => (.error (.invalidArgument reason), i)
  | .ok 0 => i.stopSampling.run (Driver.setPollInterval 0)
  | .ok us =>
    let wasManual := i.driver.pollInterval = 0
    match i.run (Driver.setPollInterval us.toUInt64) with
    | (.error cause, i) => (.error cause, i)
    | (.ok (), i) => (.ok (), if wasManual ∨ ¬ i.sampling then i.startSampling else i)

/-- The polling mode. -/
def polling (i : Instrument σ) : Polling := .ofInterval i.driver.pollInterval

/-- Begins sampling at the standard rate. -/
def start (i : Instrument σ) : Except Failure Unit × Instrument σ :=
  match i.setPolling .standard with
  | (.ok (), i) => (.ok (), i.note (.samplingAt i.polling.text))
  | failed => failed

/-- Goes back to measuring on demand. -/
def stop (i : Instrument σ) : Except Failure Unit × Instrument σ := i.setPolling .manual

/-- Lets the instrument go. -/
def release (i : Instrument σ) : Instrument σ := { i.stopSampling with released := true }

/-- One cycle of the sampler. -/
def tick (i : Instrument σ) : Instrument σ :=
  let pause : Routine σ Unit :=
    if i.realTime then Routine.delay (Sampler.period i.driver.pollInterval) else pure ()
  let (_, i) := i.run pause
  match i.run Driver.measure with
  | (.ok _, i) => i
  | (.error cause, i) => i.note (.cycleFailed cause)

/-- Cycles of the sampler until a window of the stream closes, at most `ticks`; says whether one
did. -/
def tickUntilClosed (channel : Channel) : (ticks : Nat) → Instrument σ → Bool × Instrument σ
  | 0, i => (false, i)
  | ticks + 1, i =>
    let after := i.tick
    if (after.driver.streams.get channel).closed = (i.driver.streams.get channel).closed then
      tickUntilClosed channel ticks after
    else (true, after)

/-- Waits up to a number of milliseconds for a window of the stream to close; says whether one
did. Without a sampler none can. -/
def awaitWindow (channel : Channel) (ms : Nat) (i : Instrument σ) : Bool × Instrument σ :=
  if i.sampling then
    tickUntilClosed channel (1000 * ms / (Sampler.period i.driver.pollInterval).toNat) i
  else (false, i)

/-! ### Opening -/

/-- The outcome of opening an instrument, and what was noted down meanwhile. -/
structure Opening (σ : Type) where
  result : Except Failure (Instrument σ)
  log : Array Event := #[]

/-- Brings a driver's sensor up; on success the driver becomes an instrument that measures on
demand. -/
def ofDriver (d : Driver σ) : Except Failure (Instrument σ) × Driver σ :=
  let (result, d) := Driver.initialise d
  (result.map fun () => { driver := d }, d)

/-! ### Front ends -/

/-- Runs something through a front end, which fails if the instrument was let go. -/
def throughFrontEnd (f : Instrument σ → Except Failure α × Instrument σ) (i : Instrument σ) :
    Except Failure α × Instrument σ :=
  if i.released then (.error .notRunning, i) else f i

/-- The full scale of a stream: multiples of gravity, or degrees per second. -/
def fullScale (channel : Channel) (i : Instrument σ) : Nat :=
  match channel with
  | .accel => i.driver.inForce.fullScale.multiple
  | .gyro => gyroDegreesPerSecond

end Instrument

end InertialSensor
