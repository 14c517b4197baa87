import InertialSensor.CommandLine.Session
import Std.Time

/-!
# The program

Runs one session. Its lines go to standard output and the heavier events to standard error. Reports
are printed in real time, as the simulated sensor's clock moves on.
-/

namespace InertialSensor.CommandLine

open Simulation (Sensor)

/-- The present local time in words. -/
def presentTime : IO String := do
  let now ← Std.Time.PlainDateTime.now
  pure (now.format "uuuu-MM-dd HH:mm:ss")

/-- Prints lines at once. -/
def say (lines : List String) : IO Unit := do
  let out ← IO.getStdout
  lines.forM out.putStrLn
  out.flush

/-- Prints the events that a user should see. -/
def tell (log : List Event) : IO Unit :=
  log.forM fun e => do
    if e.level.rank ≤ Level.info.rank then IO.eprintln s!"{e.level.name} {e.text}"

/-- Prints reports until the time is up, no faster than the sensor's clock moves. -/
partial def follow (isOver : Printing → Bool) (p : Printing) :
    IO (Except Failure Unit × Instrument Sensor) := do
  if isOver p then pure (.ok (), p.instrument)
  else do
    let (result, after) := p.step
    IO.sleep ((elapsed p.instrument.driver.now after.instrument.driver.now) / 1000).toUInt32
    match result with
    | .error cause => pure (.error cause, after.instrument)
    | .ok line =>
      say line.toList
      follow isOver after

/-- Runs the command that prints reports. -/
def followReports (seconds : Option Nat) (i : Instrument Sensor) :
    IO (Except Failure Unit × Instrument Sensor) := do
  say startLines
  let opened := i.driver.now
  match ← follow (timeIsUp seconds opened) ⟨i, opened, 0⟩ with
  | (.error cause, i) => pure (.error cause, i)
  | (.ok (), i) =>
    let (result, lines, i) := showInfo i
    say ("" :: lines)
    pure (result, i)

/-- A session that prints reports as they are made. -/
def liveSession (r : Request) (seconds : Option Nat) (startedAt : String) : IO UInt32 := do
  say (header r startedAt)
  let (started, s) := startUp r 0
  let (result, s) ←
    match started, s.get? r.placement with
    | .ok (), some i => do
      let (result, i) ← followReports seconds i
      pure (result, (s.withInstrument r.placement fun _ => ((), i)).2)
    | started, _ => pure (started, s)
  let (code, log) := finish r.placement result s
  tell log
  pure code.toUInt32

/-- A session whose lines are printed in one go. -/
def session (r : Request) (startedAt : String) : IO UInt32 := do
  let outcome := run r { startedAt := startedAt }
  say outcome.out
  tell outcome.log
  pure outcome.code.toUInt32

end InertialSensor.CommandLine

open InertialSensor.CommandLine in
/-- Runs the session that the arguments ask for. The exit code is two if they ask for none. -/
def main (args : List String) : IO UInt32 := do
  match parse? args with
  | none =>
    IO.eprintln "usage: [OPTIONS] <start|test|reset|info|regdump|testerror>"
    pure 2
  | some r =>
    let startedAt ← presentTime
    match r.command with
    | .start seconds => liveSession r seconds startedAt
    | _ => session r startedAt
