import InertialSensor.Proofs.Driver.Invariant
import InertialSensor.Proofs.Simulation.Registers

/-!
# The sweep over the checked registers

A driver over a simulated sensor verifies the checked registers in turn. A register is right if it
holds what the shadow keeps for it. Of every change short of a reset it is said which registers
become or stay right (`Steady`), and `Trailing` counts the right registers behind the cursor: once
there are eight of them, all are right.
-/

namespace InertialSensor.Driver

open Simulation

variable {d d' d'' : Driver (FaultPlan Sensor)} {i : Fin 8} {k : Nat}

/-! ### Right registers -/

/-- A checked register holds what it should. -/
def Right (i : Fin 8) (d : Driver (FaultPlan Sensor)) : Prop :=
  d.bus.inner.register? (Register.checked.get i) = some (d.watch.shadow.values.get i)

/-- All checked registers hold what they should. -/
def Configured (d : Driver (FaultPlan Sensor)) : Prop := ∀ i, Right i d

/-- How many places the cursor has passed after the place `i`. -/
def passedSince (cursor i : Fin 8) : Nat := (cursor.val + 7 - i.val) % 8

lemma passedSince_lt_eight (cursor i : Fin 8) : passedSince cursor i < 8 :=
  Nat.mod_lt _ (Nat.succ_pos 7)

/-- The `k` registers last passed by the cursor hold what they should. -/
def Trailing (k : Nat) (d : Driver (FaultPlan Sensor)) : Prop :=
  ∀ i, passedSince d.watch.shadow.cursor i < k → Right i d

/-- After a whole round, all registers are right. -/
lemma Trailing.configured (h : Trailing k d) (round : 8 ≤ k) : Configured d := by
  intro i
  exact h i (Nat.lt_of_lt_of_le (passedSince_lt_eight _ i) round)

/-- While a register is wrong, fewer than eight were passed. -/
lemma Trailing.lt_eight (h : Trailing k d) (wrong : ¬Configured d) : k < 8 := by
  by_contra round
  exact wrong (h.configured (Nat.not_lt.mp round))

lemma trailing_zero (d : Driver (FaultPlan Sensor)) : Trailing 0 d :=
  fun _ behind => absurd behind (Nat.not_lt_zero _)

/-- When the cursor moves on, it has passed one place more since every place but the one that it
passes. -/
lemma passedSince_succ : ∀ {cursor i : Fin 8}, i ≠ cursor →
    passedSince (cursor + 1) i = passedSince cursor i + 1 := by
  decide

lemma Trailing.advance (h : Trailing k d) (right : ∀ i, Right i d → Right i d')
    (cursor : d'.watch.shadow.cursor = d.watch.shadow.cursor + 1)
    (passed : Right d.watch.shadow.cursor d') : Trailing (k + 1) d' := by
  intro i behind
  by_cases last : i = d.watch.shadow.cursor
  · exact last ▸ passed
  · rw [cursor, passedSince_succ last] at behind
    exact right i (h i (Nat.lt_of_succ_lt_succ behind))

/-- Transfers that change no register keep registers right. -/
lemma Right.undisturbed (h : Right i d)
    (undisturbed : Sensor.Undisturbed d.bus.inner d'.bus.inner)
    (values : d'.watch.shadow.values = d.watch.shadow.values) : Right i d' := by
  rw [Right, undisturbed.registers i, values]
  exact h

/-! ### Steady changes -/

/-- No register that was right has become wrong, and the cursor has not moved. -/
structure Steady (d d' : Driver (FaultPlan Sensor)) : Prop where
  right : ∀ i, Right i d → Right i d'
  cursor : d'.watch.shadow.cursor = d.watch.shadow.cursor

namespace Steady

lemma refl (d : Driver (FaultPlan Sensor)) : Steady d d := ⟨fun _ h => h, rfl⟩

lemma trans (h : Steady d d') (h' : Steady d' d'') : Steady d d'' :=
  ⟨fun i right => h'.right i (h.right i right), h'.cursor.trans h.cursor⟩

/-- Changes aside from the registers and the shadow are steady. -/
lemma of_same (inner : d'.bus.inner = d.bus.inner)
    (shadow : d'.watch.shadow = d.watch.shadow) : Steady d d' := by
  refine ⟨fun i right => ?_, by rw [shadow]⟩
  rw [Right, inner, shadow]
  exact right

/-- Transfers that change no register are steady. -/
lemma of_undisturbed (undisturbed : Sensor.Undisturbed d.bus.inner d'.bus.inner)
    (shadow : d'.watch.shadow = d.watch.shadow) : Steady d d' :=
  ⟨fun _ right => right.undisturbed undisturbed (by rw [shadow]), by rw [shadow]⟩

end Steady

lemma Trailing.steady (h : Trailing k d) (steady : Steady d d') : Trailing k d' := by
  intro i behind
  rw [steady.cursor] at behind
  exact steady.right i (h i behind)

/-- A setting that succeeds makes its register right if the shadow keeps its value, and leaves the
others as they are. -/
lemma right_of_write {address value : UInt8} (setting : IsSetting address value)
    (succeeds : (Transport.write address value d.bus).1 = .ok ())
    (bus : d'.bus = (Transport.write address value d.bus).2)
    (kept : d'.watch.shadow.values.get i =
      if Register.checked.get i = address then value else d.watch.shadow.values.get i) :
    (Register.checked.get i = address → Right i d') ∧ (Right i d → Right i d') := by
  have written := FaultPlan.write_of_ok setting succeeds i
  rw [Right, Right, bus, written, kept]
  split
  · exact ⟨fun _ => rfl, fun _ => rfl⟩
  · next other => exact ⟨fun same => absurd same other, fun right => right⟩

lemma Touch.steady (touch : Touch False d d') : Steady d d' := by
  cases touch with
  | aside aside => exact .of_same (by rw [aside.bus]) (by rw [aside.watch_eq])
  | read => exact .of_undisturbed (FaultPlan.read_undisturbed ..) rfl
  | refused failed => exact .of_undisturbed (FaultPlan.write_of_error failed) rfl
  | @written address value setting succeeds =>
    refine ⟨fun i right => ?_, ?_⟩
    · exact (right_of_write setting succeeds rfl
        (Integrity.Shadow.values_record address value d.watch.shadow i)).2 right
    · rw [Integrity.Watch.record_eq]
  | reset impossible => exact impossible.elim

lemma Quiet.steady (quiet : Quiet False d d') : Steady d d' :=
  quiet.keeps (I := Steady d) (fun touch h => h.trans touch.steady) (.refl d)

/-! ### The stages of a cycle -/

lemma values_of_repeat (j i : Fin 8)
    (values : d'.watch.shadow.values = d.watch.shadow.values) :
    d'.watch.shadow.values.get i =
      if Register.checked.get i = Register.checked.get j then d.watch.shadow.values.get j
      else d.watch.shadow.values.get i := by
  rw [values]
  split
  · next same => rw [Register.checked_injective same]
  · rfl

/-- Writing once more what the shadow keeps makes the register right if the write succeeds. -/
lemma right_of_repeat (j : Fin 8)
    (setting : IsSetting (Register.checked.get j) (d.watch.shadow.values.get j))
    (succeeds :
      (Transport.write (Register.checked.get j) (d.watch.shadow.values.get j) d.bus).1 = .ok ())
    (bus : d'.bus =
      (Transport.write (Register.checked.get j) (d.watch.shadow.values.get j) d.bus).2)
    (values : d'.watch.shadow.values = d.watch.shadow.values) : Right j d' :=
  (right_of_write setting succeeds bus (values_of_repeat j j values)).1 rfl

/-- Writing once more what the shadow keeps makes no register wrong. -/
lemma Right.repeated (right : Right i d) (j : Fin 8)
    (setting : IsSetting (Register.checked.get j) (d.watch.shadow.values.get j))
    (bus : d'.bus =
      (Transport.write (Register.checked.get j) (d.watch.shadow.values.get j) d.bus).2)
    (values : d'.watch.shadow.values = d.watch.shadow.values) : Right i d' := by
  cases result :
    (Transport.write (Register.checked.get j) (d.watch.shadow.values.get j) d.bus).1 with
  | error text =>
    rw [Right, bus, (FaultPlan.write_of_error result).registers i, values]
    exact right
  | ok => exact (right_of_write setting result bus (values_of_repeat j i values)).2 right

lemma Restoration.steady {result : Except Failure Unit} (restored : Restoration d result d')
    (sound : Sound d) : Steady d d' := by
  cases restored with
  | notDue => exact .refl d
  | failed | done => exact ⟨fun i right => right.repeated 0 sound.clock rfl rfl, rfl⟩

lemma steady_countedCycle (d : Driver (FaultPlan Sensor)) : Steady d d.countedCycle :=
  .of_same rfl rfl

lemma Fetching.steady {result : Except Failure (Vector UInt8 blockSize)}
    (fetched : Fetching d result d') : Steady d d' := by
  cases fetched with
  | failed | fetched => exact .of_undisturbed (FaultPlan.read_undisturbed ..) rfl

lemma Digestion.steady {block : Vector UInt8 blockSize} {outcome : Except Failure Cycle}
    (digested : Digestion block d outcome d') : Steady d d' := by
  cases digested with
  | repeated | empty | withheld | accepted => exact .of_same rfl rfl

lemma Digestion.rest {block : Vector UInt8 blockSize} {outcome : Except Failure Cycle}
    (digested : Digestion block d outcome d') :
    d'.stats.badRegisters = d.stats.badRegisters ∧ d'.stats.cycles = d.stats.cycles ∧
      d.stats.badTransfers ≤ d'.stats.badTransfers ∧
      d'.watch.wakePending = d.watch.wakePending := by
  cases digested with
  | repeated | withheld | accepted => exact ⟨rfl, rfl, le_rfl, rfl⟩
  | empty => exact ⟨rfl, rfl, Nat.le_succ _, rfl⟩

/-- What a cycle has done when it verifies a register. -/
structure Prepared (d d' : Driver (FaultPlan Sensor)) : Prop where
  steady : Steady d d'
  /-- The clock source is restored, if that was due. -/
  restored : d.watch.wakePending = true → Right 0 d'
  watch : d'.watch = { d.watch with wakePending := false }
  stats : d'.stats = { d.stats with cycles := d.stats.cycles + 1 }

lemma Prepared.of_stages {d₁ : Driver (FaultPlan Sensor)} {block : Vector UInt8 blockSize}
    (restored : Restoration d (.ok ()) d₁) (fetched : Fetching d₁.countedCycle (.ok block) d')
    (sound : Sound d) : Prepared d d' := by
  have steady : Steady d₁ d' := (steady_countedCycle d₁).trans fetched.steady
  obtain ⟨watch, stats, -⟩ := fetched.after_restoration restored
  refine ⟨(restored.steady sound).trans steady, fun due => ?_, watch, stats⟩
  refine steady.right 0 ?_
  cases restored with
  | notDue notDue => rw [notDue] at due; cases due
  | done due succeeds => exact right_of_repeat 0 sound.clock succeeds rfl rfl

/-- What is read of the register at the cursor is its content. -/
lemma register?_of_readRegister (honest : d.bus.Honest) {found : UInt8}
    (h : (readRegister d.watch.shadow.address .high d).1 = .ok found) :
    d.bus.inner.register? (Register.checked.get d.watch.shadow.cursor) = some found := by
  obtain ⟨reading, read, -, rfl⟩ := readRegister_ok_iff.mp h
  exact honest.register?_of_read read

/-- A register that is read as something else than it should hold is wrong. -/
lemma not_right_of_readRegister (honest : d.bus.Honest) {found : UInt8}
    (h : (readRegister d.watch.shadow.address .high d).1 = .ok found)
    (wrong : found ≠ d.watch.shadow.value) : ¬Right d.watch.shadow.cursor d := by
  intro right
  rw [Right, register?_of_readRegister honest h] at right
  exact wrong (Option.some.inj right)

/-- A register that was found right falls behind the cursor. -/
lemma Trailing.verified (h : Trailing k d) (honest : d.bus.Honest)
    (found : (readRegister d.watch.shadow.address .high d).1 = .ok d.watch.shadow.value)
    (bus : d'.bus =
      (Transport.read d.watch.shadow.address .high (Vector.replicate 1 0) d.bus).2)
    (shadow : d'.watch.shadow = d.watch.shadow.advance) : Trailing (k + 1) d' := by
  have undisturbed : Sensor.Undisturbed d.bus.inner d'.bus.inner := by
    rw [bus]
    exact FaultPlan.read_undisturbed ..
  have right (i : Fin 8) (right : Right i d) : Right i d' :=
    right.undisturbed undisturbed (by rw [shadow]; rfl)
  exact h.advance right (by rw [shadow]; rfl) (right _ (register?_of_readRegister honest found))

/-- What a cycle that finds no register wrong does to the sweep: the cursor stays, after a good
transfer only if its register could not be read, or it passes a register that is right. -/
lemma Course.sweeps {outcome : Except Failure Cycle} (course : Course d outcome d')
    (sound : Sound d) (honest : d.bus.Honest)
    (right : d'.stats.badRegisters = d.stats.badRegisters) (behind : Trailing k d) :
    (Trailing k d' ∧ d'.watch.shadow.cursor = d.watch.shadow.cursor ∧
        (d.stats.goodTransfers < d'.stats.goodTransfers →
          d.stats.badTransfers < d'.stats.badTransfers)) ∨
      Trailing (k + 1) d' ∧ d'.watch.shadow.cursor = d.watch.shadow.cursor + 1 := by
  have stays (steady : Steady d d')
      (blind : d.stats.goodTransfers < d'.stats.goodTransfers →
        d.stats.badTransfers < d'.stats.badTransfers) :
      (Trailing k d' ∧ d'.watch.shadow.cursor = d.watch.shadow.cursor ∧
          (d.stats.goodTransfers < d'.stats.goodTransfers →
            d.stats.badTransfers < d'.stats.badTransfers)) ∨
        Trailing (k + 1) d' ∧ d'.watch.shadow.cursor = d.watch.shadow.cursor + 1 :=
    .inl ⟨behind.steady steady, steady.cursor, blind⟩
  cases course with
  | skipped => exact stays (.refl d) fun good => absurd good (lt_irrefl _)
  | asleep _ restored =>
    refine stays (restored.steady sound) fun good => absurd good ?_
    cases restored with
    | failed => exact lt_irrefl _
  | @lost _ d₁ _ _ restored fetched =>
    refine stays ((restored.steady sound).trans ((steady_countedCycle d₁).trans fetched.steady))
      fun good => absurd good ?_
    cases fetched with
    | failed => cases restored with | notDue | done => exact lt_irrefl _
  | @digested _ _ d₁ d₂ d₃ _ _ restored fetched verified digested =>
    have prepared := Prepared.of_stages restored fetched sound
    have honest₂ : d₂.bus.Honest := FaultPlan.honest_invariant.prepared restored fetched honest
    obtain ⟨bad, -, transfers, -⟩ := digested.rest
    rw [if_pos sound.verifies] at verified
    cases verified with
    | unread =>
      refine stays (prepared.steady.trans (Steady.trans ?_ digested.steady)) fun _ => ?_
      · exact .of_undisturbed (FaultPlan.read_undisturbed ..) rfl
      · refine Nat.lt_of_lt_of_le ?_ transfers
        rw [prepared.stats]
        exact Nat.lt_succ_self _
    | right found =>
      refine .inr ⟨?_, ?_⟩
      · exact .steady ((behind.steady prepared.steady).verified honest₂ found (by rfl) (by rfl))
          digested.steady
      · rw [digested.steady.cursor, ← prepared.steady.cursor]
        rfl
    | reset | repair =>
      rw [bad, prepared.stats] at right
      exact absurd right (Nat.succ_ne_self _)

/-! ### A sensor that was brought up -/

/-- The driver after bringing up a simulated sensor as configured by default. -/
def broughtUp : Driver (FaultPlan Sensor) :=
  (perform .initialise (.new ⟨.new .internal, []⟩ .start {})).2

/-- Whatever bus it goes on with, it is ready. -/
lemma ready_broughtUp (bus : FaultPlan Sensor) : Ready (broughtUp.withBus bus) :=
  ⟨FaultPlan Sensor, inferInstance, ⟨.new .internal, []⟩, .start, {}, [], [], rfl,
    by decide +kernel, rfl⟩

end InertialSensor.Driver
