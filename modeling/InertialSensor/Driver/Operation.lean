import InertialSensor.Driver.Adjust
import InertialSensor.Driver.BringUp
import InertialSensor.Driver.Diagnosis
import InertialSensor.Driver.Reading

/-!
# Operations

Everything that can be asked of a driver, as data, so that one can speak about every sequence of
requests. `perform` carries one out, `performAll` a sequence; a failed operation does not end the
sequence.
-/

namespace InertialSensor.Driver

/-- A request to the driver. -/
inductive Operation where
  | initialise
  | probe
  | reset
  | measure
  | read (channel : Channel) (max : Nat)
  | selfTest (channel : Channel)
  | setPollInterval (us : UInt64)
  | setLowPass (channel : Channel) (hz : Float32)
  | setSampleRate (hz : Nat)
  | setFullScale (g : Nat)
  | setQueueDepth (channel : Channel) (depth : Nat)
  | setCalibration (channel : Channel) (calibration : Calibration)
  | forgetHistory
  | setMuted (muted : Bool)
  | dumpRegisters
  | provokeSlowRead
  | summarise
  /-- Lets time go by. -/
  | wait (us : UInt64)

/-- What an operation answers with. -/
inductive Answer where
  | done
  | cycle (outcome : Cycle)
  | reports (reports : List Report)
  | verdict (passed : Bool)
  | registers (dump : List (UInt8 × UInt8))
  | summary (summary : Summary)

variable {σ : Type} [Transport σ]

/-- Carries out one operation. -/
def perform : Operation → Routine σ Answer
  | .initialise => do Driver.initialise; pure .done
  | .probe => do Driver.probe; pure .done
  | .reset => do Driver.reset; pure .done
  | .measure => do pure (.cycle (← Driver.measure))
  | .read channel max => do pure (.reports (← Driver.read channel max))
  | .selfTest channel => do pure (.verdict (← Driver.selfTest channel))
  | .setPollInterval us => do Driver.setPollInterval us; pure .done
  | .setLowPass channel hz => do Driver.setLowPass channel hz; pure .done
  | .setSampleRate hz => do Driver.setSampleRate hz; pure .done
  | .setFullScale g => do Driver.setFullScale g; pure .done
  | .setQueueDepth channel depth => do Driver.setQueueDepth channel depth; pure .done
  | .setCalibration channel c => do Driver.setCalibration channel c; pure .done
  | .forgetHistory => do Driver.forgetHistory; pure .done
  | .setMuted muted => do Driver.setMuted muted; pure .done
  | .dumpRegisters => do pure (.registers (← Driver.dumpRegisters))
  | .provokeSlowRead => do pure (.registers (← Driver.provokeSlowRead))
  | .summarise => do pure (.summary (← Driver.summarise))
  | .wait us => do Routine.delay us; pure .done

/-- Carries out a sequence of operations: the answer of each, and the state afterwards. -/
def performAll : List Operation → Driver σ → List (Except Failure Answer) × Driver σ
  | [], d => ([], d)
  | op :: ops, d =>
    let (answer, d) := perform op d
    let (answers, d) := performAll ops d
    (answer :: answers, d)

end InertialSensor.Driver
