import InertialSensor.Proofs.Driver.Triple
import InertialSensor.Proofs.Recovery.Sweep
import InertialSensor.Proofs.Simulation.Resets

/-!
# What a reset on request achieves

A reset writes the checked registers in the order in which they are verified, so that at any time
the first few of them are right (`Begun`), and all are once it has succeeded, whatever else failed
on the way (`configured_of_reset`). Over a dependable sensor it always succeeds
(`reset_of_dependable`).
-/

namespace InertialSensor.Driver

open Simulation Routine

variable {d d' : Driver (FaultPlan Sensor)} {B : FaultPlan Sensor → Prop} {E : Prop} {n : Nat}

/-! ### Writing registers one after the other -/

/-- The bus has `B`, and the first `n` checked registers are right. -/
structure Begun (B : FaultPlan Sensor → Prop) (n : Nat) (d : Driver (FaultPlan Sensor)) : Prop where
  bus : B d.bus
  right : ∀ i : Fin 8, i.val < n → Right i d

/-- Changes aside from the bus and the values of the shadow. -/
lemma Begun.of_same (h : Begun B n d) (bus : d'.bus = d.bus)
    (values : d'.watch.shadow.values = d.watch.shadow.values) : Begun B n d' := by
  refine ⟨bus ▸ h.bus, fun i below => ?_⟩
  rw [Right, bus, values]
  exact h.right i below

/-- Every transfer keeps `B`, and with it writes to checked registers fail only if `E`. -/
structure Serving (B : FaultPlan Sensor → Prop) (E : Prop) : Prop where
  kept : BusInvariant B
  fails : ∀ {bus : FaultPlan Sensor} {i : Fin 8} {value : UInt8} {text : String}, B bus →
    (Transport.write (Register.checked.get i) value bus).1 = .error text → E

/-- Nothing is known of the bus. -/
def AnyBus (_ : FaultPlan Sensor) : Prop := True

lemma serving_any : Serving AnyBus True where
  kept := ⟨fun _ _ _ _ _ => trivial, fun _ _ _ _ => trivial⟩
  fails _ _ := trivial

lemma serving_dependable : Serving FaultPlan.Dependable False where
  kept := FaultPlan.dependable_invariant
  fails {bus i value text} h failed := by
    have succeeds := h.answering.write_checked i value
    cases succeeds.symm.trans failed

lemma update_begun {f : Driver (FaultPlan Sensor) → Driver (FaultPlan Sensor)}
    (bus : ∀ d, (f d).bus = d.bus)
    (values : ∀ d, (f d).watch.shadow.values = d.watch.shadow.values) :
    Triple (Begun B n) (update f) (fun _ => Begun B n) E :=
  .update fun d h => h.of_same (bus d) (values d)

lemma delay_begun (us : UInt64) : Triple (Begun B n) (delay us) (fun _ => Begun B n) E :=
  update_begun (fun _ => rfl) fun _ => rfl

section

variable (serving : Serving B E)

include serving

lemma writeChecked_begun (i : Fin 8) {value : UInt8}
    (setting : IsSetting (Register.checked.get i) value) :
    Triple (Begun B i.val) (writeChecked (Register.checked.get i) value)
      (fun _ => Begun B (i.val + 1)) E := by
  intro d h
  cases result : (Transport.write (Register.checked.get i) value d.bus).1 with
  | error text =>
    rw [writeChecked_of_error result]
    exact serving.fails h.bus result
  | ok =>
    rw [writeChecked_of_ok result]
    refine ⟨serving.kept.write _ _ h.bus, fun j below => ?_⟩
    let after := { d with
      bus := (Transport.write (Register.checked.get i) value d.bus).2
      watch := d.watch.record (Register.checked.get i) value }
    obtain ⟨written, kept⟩ : (Register.checked.get j = Register.checked.get i → Right j after) ∧
        (Right j d → Right j after) :=
      right_of_write setting result rfl (Integrity.Shadow.values_record _ value d.watch.shadow j)
    rcases Nat.lt_succ_iff_lt_or_eq.mp below with before | last
    · exact kept (h.right j before)
    · exact written (by rw [Fin.ext last])

/-- Writing a register other than the power register, and taking the setting over. -/
lemma program_begun (i : Fin 8) {value : UInt8} (other : Register.checked.get i ≠ Register.power)
    {f : Driver (FaultPlan Sensor) → Driver (FaultPlan Sensor)} (bus : ∀ d, (f d).bus = d.bus)
    (values : ∀ d, (f d).watch.shadow.values = d.watch.shadow.values) :
    Triple (Begun B i.val) (do writeChecked (Register.checked.get i) value; update f)
      (fun _ => Begun B (i.val + 1)) E :=
  .bind (writeChecked_begun serving i (isSetting_of_ne value other)) fun _ =>
    update_begun bus values

lemma programRate_begun (hz : Nat) :
    Triple (Begun B 2) (programRate hz) (fun _ => Begun B 3) E :=
  program_begun serving 2 (by decide) (fun _ => rfl) fun _ => rfl

lemma programOnChipFilter_begun (hz : Nat) :
    Triple (Begun B 3) (programOnChipFilter hz) (fun _ => Begun B 4) E :=
  program_begun serving 3 (by decide) (fun _ => rfl) fun _ => rfl

lemma programFullScale_begun (g : Nat) :
    Triple (Begun B 5) (programFullScale g) (fun _ => Begun B 6) E :=
  program_begun serving 5 (by decide) (fun _ => rfl) fun _ => rfl

/-- The configuration makes the registers right that follow the power register. -/
lemma configure_begun : Triple (Begun B 1) configure (fun _ => Begun B 8) E := by
  have set (i : Fin 8) {value : UInt8} (other : Register.checked.get i ≠ Register.power) :
      Triple (Begun B i.val) (writeChecked (Register.checked.get i) value)
        (fun _ => Begun B (i.val + 1)) E :=
    writeChecked_begun serving i (isSetting_of_ne value other)
  refine .bind (set 1 (by decide)) fun _ => .bind (delay_begun _) fun _ => ?_
  refine .bind .look fun _ => .bind (programRate_begun serving _) fun _ => ?_
  refine .bind (delay_begun _) fun _ => ?_
  refine .bind .look fun _ => .bind (programOnChipFilter_begun serving _) fun _ => ?_
  refine .bind (delay_begun _) fun _ => .bind (set 4 (by decide)) fun _ => ?_
  refine .bind (update_begun (fun _ => rfl) fun _ => rfl) fun _ => ?_
  refine .bind (delay_begun _) fun _ => ?_
  refine .bind .look fun _ => .bind (programFullScale_begun serving _) fun _ => ?_
  refine .bind (delay_begun _) fun _ => .bind (set 6 (by decide)) fun _ => ?_
  refine .bind (delay_begun _) fun _ => .bind (set 7 (by decide)) fun _ => ?_
  exact delay_begun _

end

/-! ### Resets that succeed -/

/-- Over any bus, what is done without a command to reset leaves registers right. -/
lemma quietly_begun {α : Type} {x : Routine (FaultPlan Sensor) α} (quietly : x.Quietly False) :
    Triple (Begun AnyBus n) x (fun _ => Begun AnyBus n) True := by
  intro d h
  have steady := (quietly d).steady
  generalize x d = r at steady ⊢
  obtain ⟨_ | a, d'⟩ := r
  · trivial
  · exact ⟨trivial, fun i below => steady.right i (h.right i below)⟩

/-- An attempt that takes has made the power register right. -/
lemma tryReset_begun : Triple (fun _ => True) tryReset
    (fun took d => took = true → Begun AnyBus 1 d) True := by
  have anything {α : Type} {x : Routine (FaultPlan Sensor) α} :
      Triple (fun _ => True) x (fun _ => Begun AnyBus 0) True := by
    intro d _
    generalize x d = r
    obtain ⟨_ | a, d'⟩ := r
    · trivial
    · exact ⟨trivial, nofun⟩
  refine .bind anything fun _ => .bind (delay_begun _) fun _ => ?_
  refine .bind (quietly_begun (readRegister_quietly _ _)) fun status => ?_
  split
  · exact fun _ _ => nofun
  · have setting : IsSetting (Register.checked.get 0) Register.bestClock := fun _ => by decide
    refine .bind (writeChecked_begun serving_any 0 setting) fun _ => .bind (delay_begun _) fun _ => ?_
    exact .bind (quietly_begun (readRegister_quietly _ _)) fun _ d h _ => h

lemma attemptResets_begun (number left : Nat) :
    Triple (fun _ => True) (attemptResets number left)
      (fun took d => took = true → Begun AnyBus 1 d) True := by
  induction left generalizing number with
  | zero => exact fun _ _ => nofun
  | succ left ih =>
    refine .bind (.attempt tryReset_begun) fun result => ?_
    split
    · refine .bind (Q := fun _ => Begun AnyBus 1) ?_ fun _ d h _ => h
      exact fun d h => (h true rfl rfl).of_same rfl rfl
    · -- what is done between two attempts cannot fail
      intro d _
      exact ih (number + 1) _ trivial

/-- After a reset that succeeds, all registers are right. -/
lemma configured_of_reset (took : (reset d).1 = .ok ()) : Configured (reset d).2 := by
  have done : Triple (fun _ => True) (reset (σ := FaultPlan Sensor))
      (fun _ => Begun AnyBus 8) True := by
    refine .bind (attemptResets_begun 1 resetAttempts) fun took => ?_
    split
    · next took =>
      refine .bind (Q := fun _ => Begun AnyBus 8) ?_ fun _ =>
        update_begun (fun _ => rfl) fun _ => rfl
      exact fun d h => configure_begun serving_any d (h took)
    · exact .bind (Q := fun _ _ => True) (fun _ _ => trivial) fun _ => .fail _ trivial
  exact fun i => (done.of_ok trivial took).right i i.isLt

/-! ### Dependable sensors -/

/-- No transfer fails, and every reset takes. -/
def Dependable (d : Driver (FaultPlan Sensor)) : Prop := d.bus.Dependable

/-- A dependable sensor, and the content of its power register. -/
structure Powered (value : UInt8) (d : Driver (FaultPlan Sensor)) : Prop where
  dependable : Dependable d
  content : d.bus.inner.register? Register.power = some value

namespace Powered

variable {value : UInt8}

lemma delay (us : UInt64) : Triple (Powered value) (delay us) (fun _ => Powered value) False :=
  .update fun _ h => ⟨h.dependable, h.content⟩

lemma readRegister (speed : Speed) : Triple (Powered value) (readRegister Register.power speed)
    (fun found d => found = value ∧ Powered value d) False := by
  intro d h
  obtain ⟨reading, read, count⟩ := h.dependable.answering.read_checked 0 speed (Vector.replicate 1 0)
  have found : (Driver.readRegister Register.power speed d).1 = .ok (reading.bytes.get 0) :=
    readRegister_ok_iff.mpr ⟨reading, read, count, rfl⟩
  have content : d.bus.inner.register? Register.power = some (reading.bytes.get 0) :=
    h.dependable.answering.honest.register?_of_read (i := 0) read
  have after := readRegister_state Register.power speed d
  generalize Driver.readRegister Register.power speed d = r at found after ⊢
  obtain ⟨_, d'⟩ := r
  cases found
  cases after
  refine ⟨Option.some.inj (content.symm.trans h.content), ?_, ?_⟩
  · exact FaultPlan.dependable_invariant.read _ _ _ h.dependable
  · exact ((FaultPlan.read_undisturbed ..).registers 0).trans h.content

/-- The command to reset puts the sensor to sleep. -/
lemma sleep : Triple Dependable (writeRaw Register.power Register.resetBit)
    (fun _ => Powered Register.asleep) False := by
  intro d (h : d.bus.Dependable)
  have succeeds := h.answering.write_checked 0 Register.resetBit
  rw [writeRaw_apply]
  generalize result : Transport.write Register.power Register.resetBit d.bus = r
  have after : r.2 = (Transport.write Register.power Register.resetBit d.bus).2 := by rw [result]
  obtain ⟨answer, bus⟩ := r
  cases (congrArg Prod.fst result).symm.trans succeeds
  cases after
  exact ⟨FaultPlan.dependable_invariant.write _ _ h, h.register?_of_reset⟩

lemma writeChecked (clock : IsSetting Register.power value) {before : UInt8} :
    Triple (Powered before) (writeChecked Register.power value) (fun _ => Powered value) False := by
  intro d h
  have succeeds : (Transport.write Register.power value d.bus).1 = .ok () :=
    h.dependable.answering.write_checked 0 value
  rw [writeChecked_of_ok succeeds]
  exact ⟨FaultPlan.dependable_invariant.write _ _ h.dependable,
    FaultPlan.write_of_ok clock succeeds 0⟩

end Powered

/-- The first attempt takes. -/
lemma tryReset_of_dependable : Triple Dependable tryReset
    (fun took d => took = true ∧ Dependable d) False := by
  refine .bind Powered.sleep fun _ => .bind (Powered.delay _) fun _ => ?_
  refine .bind (Powered.readRegister _) fun status => ?_
  rintro d ⟨rfl, asleep⟩
  rw [if_neg (by decide)]
  have clock : IsSetting Register.power Register.bestClock := fun _ => by decide
  have woken : Triple (Powered Register.asleep) (do
      writeChecked Register.power Register.bestClock
      Routine.delay clockSettle
      let source ← readRegister Register.power .low
      pure (decide (source = Register.bestClock)))
      (fun took d => took = true ∧ Dependable d) False := by
    refine .bind (Powered.writeChecked clock) fun _ => .bind (Powered.delay _) fun _ => ?_
    exact .bind (Powered.readRegister _) fun _ _ h => ⟨decide_eq_true h.1, h.2.dependable⟩
  exact woken d asleep

lemma attemptResets_of_dependable (number left : Nat) :
    Triple Dependable (attemptResets number (left + 1))
      (fun took d => took = true ∧ Dependable d) False := by
  intro d h
  obtain ⟨took, succeeds, rfl, dependable⟩ := tryReset_of_dependable.succeeds h
  rw [attemptResets, bind_apply, attempt_apply, succeeds]
  exact ⟨rfl, dependable⟩

/-- Over a dependable sensor, a reset succeeds. -/
lemma reset_of_dependable (h : d.bus.Dependable) : (reset d).1 = .ok () := by
  have begun : Triple Dependable (attemptResets 1 resetAttempts)
      (fun took d => took = true ∧ Begun FaultPlan.Dependable 1 d) False := by
    have right : Triple Dependable (attemptResets 1 resetAttempts)
        (fun took d => took = true → Begun AnyBus 1 d) True :=
      (attemptResets_begun 1 resetAttempts).mono (fun _ _ => trivial) fun _ _ h => h
    refine ((attemptResets_of_dependable 1 3).and right).mono (fun _ h => h) ?_
    exact fun took d h => ⟨h.1.1, h.1.2, (h.2 h.1.1).right⟩
  have done : Triple Dependable reset (fun _ _ => True) False := by
    refine .bind begun fun took => ?_
    rintro d ⟨rfl, begun⟩
    exact Triple.bind (configure_begun serving_dependable)
      (fun _ => .update fun _ _ => trivial) d begun
  obtain ⟨⟨⟩, succeeds, -⟩ := done.succeeds h
  exact succeeds

end InertialSensor.Driver
