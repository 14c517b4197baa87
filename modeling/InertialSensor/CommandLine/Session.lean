import InertialSensor.CommandLine.Arguments
import InertialSensor.CommandLine.Listing
import InertialSensor.Polling.Installation
import InertialSensor.Simulation.Sensor

/-!
# Sessions

A session starts an instrument on a simulated sensor, runs one command on it and stops it. What
would depend on the world outside is an argument: the text of the present time, the cycles that the
sampler ran before the command, and the number of reports after which the user interrupts.
-/

namespace InertialSensor.CommandLine

open Simulation (Sensor)

/-- What a session cannot know by itself. -/
structure Circumstances where
  /-- The present time in words. -/
  startedAt : String
  /-- Cycles of the sampler before the command. -/
  warmUp : Nat := 0
  /-- The report after which the user interrupts. -/
  interruptAfter : Option Nat := none

/-- What a session leaves behind. -/
structure Outcome where
  code : Nat
  /-- Lines of output. -/
  out : List String
  /-- What was noted down. -/
  log : List Event

/-- A command's result, its lines of output, and the instrument afterwards. -/
abbrev Effect := Except Failure Unit × List String × Instrument Sensor

/-! ### Opening -/

def Request.placement (r : Request) : Placement := if r.external then .external else .internal

/-- The name under which a backend is shown. -/
def Backend.name : Backend → String
  | simulated => "Sim"
  | adapter => "Ftdi"

/-- The lines above everything else. -/
def header (r : Request) (startedAt : String) : List String :=
  ["ICM-20602 driver", "================", "Started: " ++ startedAt,
    s!"Bus: {r.backend.name}, external: {r.external}", ""]

/-- Opens the instrument asked for. -/
def openInstrument (r : Request) : Instrument.Opening Sensor :=
  match Mounting.ofIndex? r.mounting with
  | none => { result := .error (.invalidArgument (.mountingIndex r.mounting)) }
  | some mounting =>
    match r.backend with
    | .adapter => { result := .error (.unsupported "built without the `ftdi` feature") }
    | .simulated =>
      let config : Configuration := { mounting := mounting, rangeG := r.rangeG }
      let driver := Driver.new (Sensor.new r.placement) Clock.start config
      match Instrument.ofDriver { driver with logging := true } with
      | (.ok i, _) => { result := .ok { i with realTime := true } }
      | (.error cause, d) => { result := .error cause, log := d.log }

/-! ### Printing reports -/

/-- Microseconds between printed reports. -/
def printPeriod : UInt64 := 100000

/-- The state of a run that prints reports: the time of the last one, and the number of them. -/
structure Printing where
  instrument : Instrument Sensor
  lastPrint : UInt64
  printed : Nat := 0

/-- Waits for one window, and prints one report of each stream if it is time for one. -/
def Printing.step (p : Printing) : Except Failure (Option String) × Printing :=
  let (closed, i) := p.instrument.awaitWindow .accel 100
  let p := { p with instrument := i }
  if ¬ closed ∨ elapsed p.lastPrint i.driver.now < printPeriod then (.ok none, p)
  else
    let p := { p with lastPrint := i.driver.now }
    match i.run (Driver.read .accel 1) with
    | (.error cause, i) => (.error cause, { p with instrument := i })
    | (.ok [], i) => (.ok none, { p with instrument := i })
    | (.ok (accel :: _), i) =>
      match i.run (Driver.read .gyro 1) with
      | (.ok (gyro :: _), i) =>
        (.ok (some (reportLine accel gyro)),
          { p with instrument := i, printed := p.printed + 1 })
      | (.ok [], i) | (.error .noData, i) => (.ok none, { p with instrument := i })
      | (.error cause, i) => (.error cause, { p with instrument := i })

/-- Prints reports until `isOver`, for at most `fuel` waits. -/
def Printing.run (isOver : Printing → Bool) : (fuel : Nat) → Printing →
    Except Failure Unit × List String × Printing
  | 0, p => (.ok (), [], p)
  | fuel + 1, p =>
    if isOver p then (.ok (), [], p)
    else
      match p.step with
      | (.error cause, p) => (.error cause, [], p)
      | (.ok line, p) =>
        let (result, lines, p) := Printing.run isOver fuel p
        (result, line.toList ++ lines, p)

/-- A wait takes one cycle of the sampler at least, so that this many waits outlast a number of
seconds. -/
def waitsFor (seconds : Nat) : Nat := 1250 * seconds + 1

/-! ### Commands -/

/-- The lines above the reports. -/
def startLines : List String := ["Press Ctrl+C to stop", ""]

/-- Shows the summary. -/
def showInfo (i : Instrument Sensor) : Effect :=
  match i.run Driver.summarise with
  | (.ok summary, i) => (.ok (), summary.lines, i)
  | (.error cause, i) => (.error cause, [], i)

/-- A number of seconds, if there is one, has gone by since a time. -/
def timeIsUp (seconds : Option Nat) (opened : UInt64) (p : Printing) : Bool :=
  seconds.any fun s => decide (1000000 * s ≤ (elapsed opened p.instrument.driver.now).toNat)

/-- Prints reports for a number of seconds or until the interrupt, then the summary. -/
def showReports (seconds interruptAfter : Option Nat) (i : Instrument Sensor) : Effect :=
  let opened := i.driver.now
  let isOver (p : Printing) : Bool :=
    timeIsUp seconds opened p || interruptAfter.any (fun n => decide (n ≤ p.printed))
  let waits := waitsFor (seconds.getD 600)
  match Printing.run isOver waits ⟨i, opened, 0⟩ with
  | (.error cause, lines, p) => (.error cause, startLines ++ lines, p.instrument)
  | (.ok (), lines, p) =>
    let (result, summary, i) := showInfo p.instrument
    (result, startLines ++ lines ++ "" :: summary, i)

/-- Shows one report of each stream and runs the self tests. -/
def showTest (i : Instrument Sensor) : Effect :=
  match i.run (Driver.read .accel 1) with
  | (.error cause, i) => (.error cause, [], i)
  | (.ok accel, i) =>
    let accelText := accel.flatMap fun r => accelLines r (i.fullScale .accel)
    match i.run (Driver.read .gyro 1) with
    | (.error cause, i) => (.error cause, accelText, i)
    | (.ok gyro, i) =>
      let text := accelText ++ gyro.flatMap fun r => gyroLines r (i.fullScale .gyro)
      match i.run (do pure (← Driver.selfTest .accel, ← Driver.selfTest .gyro)) with
      | (.error cause, i) => (.error cause, text, i)
      | (.ok (accelPasses, gyroPasses), i) =>
        (.ok (),
          text ++ [s!"self-test: accel {verdict accelPasses} gyro {verdict gyroPasses}"], i)

/-- Shows registers. -/
def showDump (dump : Routine Sensor (List (UInt8 × UInt8))) (i : Instrument Sensor) : Effect :=
  match i.run dump with
  | (.ok registers, i) => (.ok (), dumpRows registers, i)
  | (.error cause, i) => (.error cause, [], i)

/-- Runs one command. -/
def runCommand (command : Command) (interruptAfter : Option Nat) (i : Instrument Sensor) :
    Effect :=
  match command with
  | .start seconds => showReports seconds interruptAfter i
  | .test => showTest i
  | .reset =>
    match i.run Driver.reset with
    | (.ok (), i) => (.ok (), ["reset ok"], i)
    | (.error cause, i) => (.error cause, [], i)
  | .info => showInfo i
  | .registers => showDump Driver.dumpRegisters i
  | .provoke => showDump Driver.provokeSlowRead i

/-! ### Sessions -/

/-- A number of cycles of the sampler. -/
def tickTimes : Nat → Instrument Sensor → Instrument Sensor
  | 0, i => i
  | n + 1, i => tickTimes n i.tick

/-- Starts the instrument, and notes down the device found. -/
def startUp (r : Request) (warmUp : Nat) : Except Failure Unit × Installation Sensor :=
  let started : Except Failure Unit × Installation Sensor :=
    Id.run (Installation.start r.placement (pure (openInstrument r)) {})
  match started with
  | (.error cause, s) => (.error cause, s)
  | (.ok (), s) =>
    let found (i : Instrument Sensor) : Unit × Instrument Sensor :=
      ((), tickTimes warmUp (i.note (.deviceFound (Transport.deviceId i.driver.bus) r.placement)))
    (.ok (), (s.withInstrument r.placement found).2)

/-- The end of a session whose command ended with a result: the instrument is stopped, or only let
go after a failure, and a failure is noted down last. -/
def finish (p : Placement) (result : Except Failure Unit) (s : Installation Sensor) :
    Nat × List Event :=
  let (result, s) :=
    match result with
    | .ok () => s.stop p
    | .error cause => (.error cause, s.vacate p)
  match result with
  | .ok () => (0, s.log.toList)
  | .error cause => (1, s.log.toList ++ [.commandFailed cause])

/-- A whole session. -/
def run (r : Request) (c : Circumstances) : Outcome :=
  let top := header r c.startedAt
  let (result, lines, s) : Except Failure Unit × List String × Installation Sensor :=
    match startUp r c.warmUp with
    | (.error cause, s) => (.error cause, [], s)
    | (.ok (), s) =>
      let command (i : Instrument Sensor) :
          (Except Failure Unit × List String) × Instrument Sensor :=
        let (result, lines, i) := runCommand r.command c.interruptAfter i
        ((result, lines), i)
      let (effect, s) := s.withInstrument r.placement command
      let (result, lines) := effect.getD (.error .notRunning, [])
      (result, lines, s)
  let (code, log) := finish r.placement result s
  ⟨code, top ++ lines, log⟩

end InertialSensor.CommandLine
