import InertialSensor.Proofs.Recovery.BringUp
import InertialSensor.Proofs.Settings.Coherence

/-!
# A reset restores the settings

After a bring-up, a reset on request writes what the registers should hold already. So it leaves the
settings as they are, however often it starts over, and if it succeeds the chip has them again.
-/

namespace InertialSensor.Driver

open Routine Simulation

variable {σ : Type} {u : Setup}

/-- Once all registers are known, a reset writes what they should hold already. -/
lemma Standing.given_eq (h : Standing 8 u) (i : Fin 8) : u.given i = u := by
  have values : u.values.setIfInBounds i (u.inForce.registers.get i) = u.values := by
    refine Vector.ext fun j inside => ?_
    rw [← h.values i i.isLt, Vector.getElem_setIfInBounds]
    split
    · next same => simp [← same, Vector.get_eq_getElem]
    · rfl
  have range : (if i.val = 5 then u.inForce.fullScale.multiple else u.config.rangeG) =
      u.config.rangeG := by
    split
    · exact (h.range (by decide)).symm
    · rfl
  simp only [Setup.given, values, range]

lemma Standing.unchanged (h : Standing 8 u) : Progression fun _ u' => u' = u where
  coherent same := same ▸ h.toCoherent
  restart same := same
  write i _ same := same ▸ h.given_eq i

/-- The states that can occur after a successful bring-up. Up to then the driver may have worked
over any bus, and from then on it is on the bus of the state. -/
def Initialised (d : Driver σ) : Prop :=
  ∃ (τ : Type) (_ : Transport τ) (bus : τ) (clock : Clock) (config : Configuration)
    (earlier later : List Operation),
    let start := (performAll earlier (.new bus clock config)).2
    (Driver.perform .initialise start).1.isOk = true ∧
      d = (performAll later (Driver.perform .initialise start).2).2.withBus d.bus

lemma Initialised.standing {d : Driver σ} (h : Initialised d) : Standing 8 d.setup := by
  obtain ⟨τ, _, bus, clock, config, earlier, later, success, same⟩ := h
  have start := (standing_new bus clock config).performAll earlier
  have standing := (standing_of_initialise start success).performAll later
  have setup : d.setup = _ := congrArg Driver.setup same
  rw [setup]
  exact standing

/-- A reset on request forgets the recovery in progress, and leaves all else to the chip. -/
lemma watch_of_reset [Transport σ] {d : Driver σ} (took : (reset d).1 = .ok ()) :
    (reset d).2.watch = { shadow := ⟨(reset d).2.watch.shadow.values, 0⟩ } := by
  rcases reset_cases d with ⟨cause, failed, -⟩ | ⟨-, between, -, after⟩
  · cases took.symm.trans failed
  · rw [after]
    rfl

/-- A reset that succeeds restores exactly the settings in force. Whatever was asked of the driver
since its bring-up, over whatever bus, and whatever faults are planned and resets stuck: the
settings in force, the configuration, the streams with their calibrations, filters and backlogs, the
polling interval and the values that registers should hold are after the reset what they were
before. All checked registers of the sensor hold these values, which are those of the settings in
force; and no recovery is in progress. -/
theorem reset_restores_settings {d : Driver (FaultPlan Sensor)} (initialised : Initialised d)
    (success : (perform .reset d).1.isOk = true) :
    let d' := (perform .reset d).2
    d'.inForce = d.inForce ∧ d'.config = d.config ∧ d'.streams = d.streams ∧
      d'.pollInterval = d.pollInterval ∧ d'.watch.shadow.values = d.watch.shadow.values ∧
      Configured d' ∧ d'.watch.shadow.values = d.inForce.registers ∧
      d'.watch = { shadow := ⟨d'.watch.shadow.values, 0⟩ } := by
  intro d'
  have state : d' = (reset d).2 := (answered ..).1
  have took : (reset d).1 = .ok () := ok_of_answered success
  have standing := initialised.standing
  have same : (reset d).2.setup = d.setup :=
    standing.unchanged.reset_alters.of_ok rfl took
  have processing : (reset d).2.processing = d.processing := reset_leaves d
  have registers : d.watch.shadow.values = d.inForce.registers :=
    Vector.ext fun i inside => standing.values ⟨i, inside⟩ inside
  rw [state]
  refine ⟨congrArg Setup.inForce same, congrArg Setup.config same,
    congrArg Processing.streams processing, congrArg Processing.pollInterval processing,
    congrArg Setup.values same, configured_of_reset took, ?_, watch_of_reset took⟩
  exact (congrArg Setup.values same).trans registers

/-- A reset with two settings changed since the bring-up: the first attempt does not take, the
second one fails, the third one cannot be verified. -/
theorem reset_restores_after_faults :
    let start : Driver (FaultPlan Sensor) := .new ⟨.new .internal, []⟩ .start {}
    let used := (performAll [.setFullScale 16, .setSampleRate 200] (perform .initialise start).2).2
    let d := used.withBus
      ⟨{ used.bus.inner with stuckResets := 1 }, [.pass, .pass, .fail, .pass, .claim 2]⟩
    d.inForce.fullScale = .g16 ∧ (perform .reset d).1.isOk = true ∧
      (perform .reset d).2.stats.resetRetries = 3 ∧ (perform .reset d).2.inForce = d.inForce ∧
      Configured (perform .reset d).2 := by
  intro start used d
  have initialised : Initialised d :=
    ⟨FaultPlan Sensor, inferInstance, ⟨.new .internal, []⟩, .start, {}, [],
      [.setFullScale 16, .setSampleRate 200], by decide +kernel, rfl⟩
  have success : (perform .reset d).1.isOk = true := by decide +kernel
  obtain ⟨inForce, -, -, -, -, configured, -⟩ := reset_restores_settings initialised success
  exact ⟨by decide +kernel, success, by decide +kernel, inForce, configured⟩

end InertialSensor.Driver
