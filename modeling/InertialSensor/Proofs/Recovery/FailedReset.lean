import InertialSensor.Proofs.Recovery.Settling
import InertialSensor.Proofs.Recovery.Sweep
import InertialSensor.Proofs.Simulation.Resets

/-!
# After a failed reset

A reset on request that fails may leave the sensor without its configuration, but does not tell the
watch: data goes on being trusted as it was before, and the cursor goes on from its place. Each
cycle still verifies one register. Once eight were found right one after the other, all registers
are right and reports come from a configured sensor; with seven of them one register can still be
wrong (`configured_iff_eight_verified`).
-/

namespace InertialSensor

/-- The register at the cursor was found right: the cursor has moved on, and no register was found
wrong. -/
def Passage.findsRight {σ : Type} [Transport σ] (p : Passage σ) : Bool :=
  !p.findsMismatch && decide (p.after.watch.shadow.cursor ≠ p.before.watch.shadow.cursor)

namespace Driver

open Simulation

variable {d d' : Driver (FaultPlan Sensor)} {k n : Nat} {s : Step (FaultPlan Sensor)}
  {p : Passage (FaultPlan Sensor)}

/-! ### One cycle -/

/-- Each register that a cycle finds right falls behind the cursor. -/
lemma trailing_of_right (sound : Sound p.before) (honest : p.before.bus.Honest)
    (right : p.findsMismatch = false) (behind : Trailing k p.before) :
    Trailing (k + p.findsRight.toNat) p.after := by
  have course : Course p.before p.outcome p.after := Course.of_measure p.before
  have moved : p.findsRight = true ↔ p.after.watch.shadow.cursor ≠ p.before.watch.shadow.cursor := by
    simp [Passage.findsRight, right]
  rcases course.sweeps sound honest (badRegisters_of_right right) behind with
    ⟨kept, stays, -⟩ | ⟨passed, moves⟩
  · rw [Bool.eq_false_iff.mpr fun found => moved.mp found stays]
    exact kept
  · have other : ∀ cursor : Fin 8, cursor + 1 ≠ cursor := by decide
    rw [moved.mpr (moves ▸ other _)]
    exact passed

/-! ### One step -/

/-- The register at the cursor was found right in the cycle within the step. -/
def Step.findsRight (s : Step (FaultPlan Sensor)) : Bool := s.passage?.any Passage.findsRight

/-- A command to reset reached the sensor. -/
def Step.wipes (s : Step (FaultPlan Sensor)) : Bool :=
  s.before.bus.inner.resets < s.after.bus.inner.resets

/-- A request in which no command to reset reaches the sensor changes no register for the worse. -/
lemma Quiet.steady_of_uncounted (quiet : Quiet True d d') :
    d.bus.inner.resets ≤ d'.bus.inner.resets ∧
      (d'.bus.inner.resets = d.bus.inner.resets → Steady d d') := by
  refine quiet.keeps (I := fun d' => d.bus.inner.resets ≤ d'.bus.inner.resets ∧
    (d'.bus.inner.resets = d.bus.inner.resets → Steady d d')) ?_ ⟨le_rfl, fun _ => .refl d⟩
  intro d₁ d₂ touch ⟨more, steady⟩
  suffices h : d₁.bus.inner.resets ≤ d₂.bus.inner.resets ∧
      (d₂.bus.inner.resets = d₁.bus.inner.resets → Steady d₁ d₂) by
    refine ⟨more.trans h.1, fun same => ?_⟩
    have same₁ : d₁.bus.inner.resets = d.bus.inner.resets := le_antisymm (h.1.trans same.le) more
    exact (steady same₁).trans (h.2 (same.trans same₁.symm))
  cases touch with
  | aside aside => exact ⟨by rw [aside.bus], fun _ => Touch.steady (.aside aside)⟩
  | read address speed buffer =>
    have same := FaultPlan.resetCounts_read address speed buffer d₁.bus
    exact ⟨(congrArg Prod.fst same).ge, fun _ => Touch.steady (.read address speed buffer)⟩
  | refused failed => exact ⟨FaultPlan.resets_le_write .., fun _ => Touch.steady (.refused failed)⟩
  | written setting succeeds =>
    exact ⟨FaultPlan.resets_le_write .., fun _ => Touch.steady (.written setting succeeds)⟩
  | reset =>
    have command : ¬IsSetting Register.power Register.resetBit :=
      fun setting => absurd (setting rfl) (by decide)
    exact ⟨FaultPlan.resets_le_write ..,
      fun same => .of_undisturbed (FaultPlan.write_of_uncounted command same) rfl⟩

/-! ### Registers found right -/

/-- The registers found right one after the other: the count starts anew when one is found wrong or
the sensor is reset. -/
def verifiedNext (n : Nat) (s : Step (FaultPlan Sensor)) : Nat :=
  if s.findsMismatch = true ∨ s.wipes = true then 0 else n + s.findsRight.toNat

/-- The registers found right one after the other at the end of a run. -/
def verified (steps : List (Step (FaultPlan Sensor))) : Nat := steps.foldl verifiedNext 0

@[simp] lemma verified_concat (steps : List (Step (FaultPlan Sensor)))
    (s : Step (FaultPlan Sensor)) : verified (steps ++ [s]) = verifiedNext (verified steps) s := by
  simp [verified, List.foldl_append]

/-- The registers found right are behind the cursor, and still right. -/
structure Verified (n : Nat) (d : Driver (FaultPlan Sensor)) : Prop where
  sound : Sound d
  honest : d.bus.Honest
  behind : Trailing n d

namespace Verified

/-- The cycle within a step. -/
lemma passage (h : Verified n s.before) (within : s.passage? = some p)
    (right : s.findsMismatch = false) : Trailing (n + s.findsRight.toNat) p.after := by
  cases Progress.of_step s with
  | quiet without => simp [within] at without
  | reset without => simp [within] at without
  | cycle within' _ first =>
    rw [within] at within'
    cases within'
    simp only [Step.findsMismatch, within, Option.any_some] at right
    simp only [Step.findsRight, within, Option.any_some]
    exact trailing_of_right (sound_invariant.quiet first h.sound)
      (FaultPlan.honest_invariant.invariant.quiet first h.honest) right
      (h.behind.steady first.steady)

/-- What is known after a step, given what was known before it. -/
lemma step (h : Verified n s.before) (vain : s.resets = false) :
    Verified (verifiedNext n s) s.after := by
  refine ⟨sound_invariant.perform s.operation h.sound,
    FaultPlan.honest_invariant.invariant.perform s.operation h.honest, ?_⟩
  rw [verifiedNext]
  split
  · exact trailing_zero _
  · next undisturbed =>
    obtain ⟨right, unwiped⟩ := not_or.mp undisturbed
    cases Progress.of_step s with
    | quiet without _ quiet =>
      obtain ⟨more, steady⟩ := (quiet.mono fun _ => trivial).steady_of_uncounted
      have same := le_antisymm (Nat.not_lt.mp fun wiped => unwiped (decide_eq_true wiped)) more
      have unfound : s.findsRight = false := by simp [Step.findsRight, without]
      rw [unfound]
      exact h.behind.steady (steady same)
    | reset _ took =>
      rw [vain] at took
      cases took
    | cycle within _ _ last => exact (h.passage within (by simpa using right)).steady last.steady

end Verified

/-! ### Runs -/

/-- A state after bring-up in which a reset fails in its last write. -/
def interrupted : Driver (FaultPlan Sensor) :=
  broughtUp.withBus { broughtUp.bus with plan := List.replicate 10 .pass ++ [.fail] }

namespace interrupted

lemma honest : interrupted.bus.Honest := by
  intro mask
  change Fault.flip mask ∉ List.replicate 10 Fault.pass ++ [Fault.fail]
  simp

/-- The reset that fails. -/
def failed : Step (FaultPlan Sensor) := ⟨.reset, interrupted⟩

/-- The cycles before the last one. -/
def cycles : List Operation := List.replicate 6 .measure

/-- The last cycle, which makes reports with a register wrong. -/
def final : Passage (FaultPlan Sensor) := ⟨(performAll cycles failed.after).2⟩

/-- The step in which it runs. -/
def good : Step (FaultPlan Sensor) := ⟨.measure, (performAll cycles failed.after).2⟩

lemma within : good.passage? = some final := Step.passage?_measure _

lemma run : history (.reset :: (cycles ++ [.measure])) interrupted =
    failed :: (history cycles failed.after ++ [good]) :=
  congrArg (failed :: ·) (history_append_cons cycles .measure [] failed.after)

lemma gentle : ∀ step ∈ history cycles failed.after, step.resets = false := by
  have operations : ∀ op ∈ cycles, op.isReset = false := by decide
  exact fun step member => Step.vain_of_gentle (operations step.operation (operation_mem member))

lemma outcome : failed.resets = false ∧ failed.wipes = true ∧ good.samples = true ∧
    verified (history cycles failed.after ++ [good]) = 7 ∧ ¬Right 7 final.after := by
  unfold Right
  decide +kernel

end interrupted

/-- After a reset on request that failed although its command reached the sensor, and as long as no
other one succeeds, reports are made only with all registers right if at least eight registers were
found right one after the other by then; seven are not enough. -/
theorem configured_iff_eight_verified (k : Nat) :
    (∀ (d : Driver (FaultPlan Sensor)) (ops : List Operation)
        (between later : List (Step (FaultPlan Sensor))) (failed good : Step (FaultPlan Sensor)),
        Ready d → d.bus.Honest → history ops d = failed :: (between ++ good :: later) →
        failed.operation = .reset → failed.resets = false → failed.wipes = true →
        (∀ step ∈ between, step.resets = false) → good.samples = true →
        k ≤ verified (between ++ [good]) →
        ∀ p, good.passage? = some p → Configured p.after) ↔
      8 ≤ k := by
  constructor
  · intro claim
    by_contra few
    have few : k ≤ 7 := by omega
    obtain ⟨vain, wiped, reported, count, wrong⟩ := interrupted.outcome
    have configured := claim interrupted _ _ [] interrupted.failed interrupted.good
      (ready_broughtUp _) interrupted.honest interrupted.run rfl vain wiped interrupted.gentle
      reported (few.trans count.ge) interrupted.final interrupted.within
    exact wrong (configured 7)
  · intro enough d ops between later failed good ready honest run _ _ _ unreset reported found p
      within
    obtain ⟨rfl, ops', rest⟩ := history_eq_cons run
    have before : Verified (verified between) good.before := by
      refine history_keeps (I := fun past d => Verified (verified past) d) rest.symm ?_ ?_
      · exact ⟨sound_invariant.perform failed.operation ready.sound,
          FaultPlan.honest_invariant.invariant.perform failed.operation honest, trailing_zero _⟩
      · intro past step member h
        rw [verified_concat]
        exact h.step (unreset step member)
    rw [verified_concat, verifiedNext] at found
    split at found
    · omega
    · exact (before.passage within (good.right_of_samples reported)).configured (enough.trans found)

/-- A sensor on which reports are made with a register wrong: the last write of a reset failed, and
seven cycles went by since. -/
theorem sampled_after_failed_reset :
    Ready interrupted ∧ interrupted.bus.Honest ∧
      history (.reset :: (interrupted.cycles ++ [.measure])) interrupted =
        interrupted.failed ::
          (history interrupted.cycles interrupted.failed.after ++ [interrupted.good]) ∧
      interrupted.failed.resets = false ∧ interrupted.failed.wipes = true ∧
      (∀ step ∈ history interrupted.cycles interrupted.failed.after, step.resets = false) ∧
      interrupted.good.samples = true ∧ interrupted.good.passage? = some interrupted.final ∧
      ¬Configured interrupted.final.after :=
  ⟨ready_broughtUp _, interrupted.honest, interrupted.run, interrupted.outcome.1,
    interrupted.outcome.2.1, interrupted.gentle, interrupted.outcome.2.2.1, interrupted.within,
    fun configured => interrupted.outcome.2.2.2.2 (configured 7)⟩

end Driver

end InertialSensor
