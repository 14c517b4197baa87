import InertialSensor.Proofs.Driver.Frame
import InertialSensor.Proofs.Simulation.Registers

/-!
# Settings that are refused

A setting can be refused by the driver, which then has not touched anything, or by the bus, which
has then been asked for one write and no more (`Refused`). A routine is `Atomic` if it fails in no
other way. Setters are: what can fail in them comes first, and what comes after it cannot fail.
-/

namespace InertialSensor

namespace Driver

open Routine Simulation

variable {σ : Type} [Transport σ]

/-- The ways in which a setting can be refused. -/
inductive Refused (d : Driver σ) : Failure → Driver σ → Prop where
  | argument (reason : Rejection) : Refused d (.invalidArgument reason) d
  | write {address value : UInt8} {text : String}
      (h : (Transport.write address value d.bus).1 = .error text) :
      Refused d (.bus text) { d with bus := (Transport.write address value d.bus).2 }

/-- What is refused changes at most the state of the bus. -/
lemma Refused.eq {d d' : Driver σ} {cause : Failure} (refused : Refused d cause d') :
    d' = { d with bus := d'.bus } := by
  cases refused with
  | argument => rfl
  | write => rfl

/-- What is refused leaves all registers of the sensor as they were. -/
lemma Refused.registers {d d' : Driver (FaultPlan Sensor)} {cause : Failure}
    (refused : Refused d cause d') : d'.bus.inner.registers = d.bus.inner.registers := by
  cases refused with
  | argument => rfl
  | write h => exact FaultPlan.registers_of_refused h

end Driver

/-! ### Atomic routines -/

namespace Routine

open Driver

variable {σ α β : Type}

/-- A routine never fails. -/
def Succeeds (x : Routine σ α) : Prop := ∀ d, ∃ a, (x d).1 = .ok a

lemma Succeeds.bind {x : Routine σ α} {f : α → Routine σ β} (hx : Succeeds x)
    (hf : ∀ a, Succeeds (f a)) : Succeeds (x >>= f) := by
  intro d
  obtain ⟨a, success⟩ := hx d
  obtain ⟨b, success'⟩ := hf a (x d).2
  refine ⟨b, ?_⟩
  rw [bind_of_ok f (Prod.ext success rfl)]
  exact success'

variable [Transport σ]

/-- A routine that fails was refused. -/
def Atomic (x : Routine σ α) : Prop :=
  ∀ d cause, (x d).1 = .error cause → Refused d cause (x d).2

namespace Atomic

lemma of_succeeds {x : Routine σ α} (hx : Succeeds x) : Atomic x := by
  intro d cause failed
  obtain ⟨a, success⟩ := hx d
  cases success.symm.trans failed

/-- An argument is refused before anything is touched. -/
lemma argument (reason : Rejection) :
    Atomic (Routine.fail (.invalidArgument reason) : Routine σ α) := by
  intro d cause failed
  cases failed
  exact .argument reason

/-- A look at the state touches nothing. -/
lemma look_bind {f : Driver σ → Routine σ α} (hf : ∀ d, Atomic (f d)) : Atomic (look >>= f) :=
  fun d => hf d d

/-- A setting is given to the chip by one write, and taken over after it. -/
lemma program (address value : UInt8) (takeOver : Driver σ → Driver σ) :
    Atomic (do writeChecked address value; update takeOver) := by
  intro d cause failed
  cases refused : (Transport.write address value d.bus).1 with
  | error text =>
    rw [bind_of_error _ (writeChecked_of_error refused)] at failed ⊢
    cases failed
    exact .write refused
  | ok =>
    rw [bind_of_ok _ (writeChecked_of_ok refused)] at failed
    cases failed

/-- What never fails may follow. -/
lemma bind {x : Routine σ α} {f : α → Routine σ β} (hx : Atomic x) (hf : ∀ a, Succeeds (f a)) :
    Atomic (x >>= f) := by
  intro d cause failed
  cases first : (x d).1 with
  | error e =>
    rw [bind_of_error f (Prod.ext first rfl)] at failed ⊢
    cases failed
    exact hx d cause first
  | ok a =>
    rw [bind_of_ok f (Prod.ext first rfl)] at failed
    obtain ⟨b, success⟩ := hf a (x d).2
    cases success.symm.trans failed

end Atomic

end Routine

namespace Driver

open Routine Simulation

variable {σ : Type} [Transport σ]

/-! ### Setters -/

/-- The operation changes one setting: a cutoff, the output rate, the full scale, the capacity of a
backlog or a calibration. -/
def Operation.isSetter : Operation → Bool
  | .setLowPass .. | .setSampleRate _ | .setFullScale _ | .setQueueDepth .. | .setCalibration .. =>
    true
  | _ => false

lemma setLowPass_atomic (c : Channel) (hz : Float32) : Atomic (setLowPass (σ := σ) c hz) := by
  unfold setLowPass
  split
  · exact .argument _
  · refine .bind (.program _ _ _) fun _ => .bind (fun d => ⟨d, rfl⟩) fun d => ?_
    exact .bind (fun _ => ⟨(), rfl⟩) fun _ _ => ⟨(), rfl⟩

lemma setSampleRate_atomic (hz : Nat) : Atomic (setSampleRate (σ := σ) hz) :=
  .bind (.program _ _ _) fun _ _ => ⟨(), rfl⟩

lemma setFullScale_atomic (g : Nat) : Atomic (setFullScale (σ := σ) g) := .program _ _ _

lemma setQueueDepth_atomic (c : Channel) (depth : Nat) :
    Atomic (setQueueDepth (σ := σ) c depth) := by
  refine .look_bind fun d => ?_
  split
  · exact .of_succeeds fun _ => ⟨(), rfl⟩
  · exact .argument _

lemma setCalibration_atomic (c : Channel) (calibration : Calibration) :
    Atomic (setCalibration (σ := σ) c calibration) := by
  unfold setCalibration
  split
  · exact .argument _
  · exact .of_succeeds fun _ => ⟨(), rfl⟩

lemma perform_atomic {op : Operation} (setter : op.isSetter = true) :
    Atomic (perform (σ := σ) op) := by
  have answered {x : Routine σ Unit} (hx : Atomic x) : Atomic (do x; pure Answer.done) :=
    .bind hx fun _ _ => ⟨_, rfl⟩
  cases op with
  | setLowPass c hz => exact answered (setLowPass_atomic c hz)
  | setSampleRate hz => exact answered (setSampleRate_atomic hz)
  | setFullScale g => exact answered (setFullScale_atomic g)
  | setQueueDepth c depth => exact answered (setQueueDepth_atomic c depth)
  | setCalibration c calibration => exact answered (setCalibration_atomic c calibration)
  | _ => cases setter

/-- A setter that fails changes nothing. Whatever the state of the driver, whatever the argument and
whatever the bus does: either the argument was refused, and the state, that of the bus included, is
exactly what it was; or one write was refused by the bus, and only the bus had a part in it. If the
bus leads to a sensor behind planned faults, all registers of the sensor are what they were: there a
write that fails does not reach the sensor. Of a bus on which a write can fail and yet take effect
this part says nothing. A cutoff that is negative or no number is refused without a transfer. -/
theorem setters_atomic {op : Operation} (setter : op.isSetter = true) :
    (∀ {σ : Type} [Transport σ] (d : Driver σ) (cause : Failure),
      (perform op d).1 = .error cause →
        (perform op d).2 = { d with bus := (perform op d).2.bus } ∧
          ((∃ reason, cause = .invalidArgument reason ∧ (perform op d).2 = d) ∨
            ∃ address value text, cause = .bus text ∧
              Transport.write address value d.bus = (.error text, (perform op d).2.bus))) ∧
      (∀ (d : Driver (FaultPlan Sensor)) (cause : Failure), (perform op d).1 = .error cause →
        (perform op d).2.bus.inner.registers = d.bus.inner.registers) ∧
      ∀ {σ : Type} [Transport σ] (d : Driver σ) (c : Channel) (hz : Float32),
        op = .setLowPass c hz → hz.isNaN = true ∨ hz < 0 →
          perform op d = (.error (.invalidArgument (.lowPassCutoff hz)), d) := by
  refine ⟨fun d cause failed => ?_, fun d cause failed => ?_, ?_⟩
  · have refused := perform_atomic setter d cause failed
    refine ⟨refused.eq, ?_⟩
    generalize (perform op d).2 = d' at refused
    cases refused with
    | argument reason => exact .inl ⟨reason, rfl, rfl⟩
    | write h => exact .inr ⟨_, _, _, rfl, Prod.ext h rfl⟩
  · exact (perform_atomic setter d cause failed).registers
  · rintro σ _ d c hz rfl invalid
    rw [perform, setLowPass, if_pos invalid]
    rfl

/-- A new driver whose first transfer fails refuses an output rate, and the sensor keeps its
registers; a negative cutoff is refused before the transfer is made. -/
theorem setters_atomic_over_failing_bus :
    let d : Driver (FaultPlan Sensor) := .new ⟨.new .internal, [.fail]⟩ .start {}
    let d' := (perform (.setSampleRate 500) d).2
    (perform (.setSampleRate 500) d).1 = .error (.bus FaultPlan.failureText) ∧
      d' = { d with bus := d'.bus } ∧ d'.bus.inner.registers = Sensor.powerOn ∧
      perform (.setLowPass .accel (-1)) d =
        (.error (.invalidArgument (.lowPassCutoff (-1))), d) := by
  intro d d'
  have failed : (perform (.setSampleRate 500) d).1 = .error (.bus FaultPlan.failureText) := rfl
  have rate : (Operation.setSampleRate 500).isSetter = true := rfl
  have cutoff : (Operation.setLowPass .accel (-1)).isSetter = true := rfl
  obtain ⟨driver, sensor, -⟩ := setters_atomic rate
  obtain ⟨-, -, rejected⟩ := setters_atomic cutoff
  exact ⟨failed, (driver d _ failed).1, sensor d _ failed,
    rejected d .accel (-1) rfl (.inr (by decide))⟩

end Driver

end InertialSensor
