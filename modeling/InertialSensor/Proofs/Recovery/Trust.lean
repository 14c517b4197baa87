import InertialSensor.Proofs.Recovery.Settling
import InertialSensor.Proofs.Recovery.Sweep

/-!
# Trust after a reset

After the watch ordered a reset, data is withheld for twenty good transfers while the cursor goes
round the checked registers. A cycle whose register cannot be read still counts as good, but leaves
the cursor where it is: such cycles are blind. With up to twelve of them between the last wrong
register and the first reports after it, all eight registers have been passed by then; with
thirteen, one of them can still be wrong (`configured_iff_few_blind`).
-/

namespace InertialSensor.Driver

open Simulation

variable {d d' : Driver (FaultPlan Sensor)} {k blind : Nat}

/-! ### One cycle -/

/-- A cycle that finds no register wrong passes one with every good transfer that is not blind. -/
lemma Course.advances {outcome : Except Failure Cycle} (course : Course d outcome d')
    (sound : Sound d) (honest : d.bus.Honest)
    (right : d'.stats.badRegisters = d.stats.badRegisters) (behind : Trailing k d) :
    ∃ k', Trailing k' d' ∧ k ≤ k' ∧
      (d.stats.goodTransfers < d'.stats.goodTransfers →
        ¬d.stats.badTransfers < d'.stats.badTransfers → k + 1 ≤ k') := by
  rcases course.sweeps sound honest right behind with ⟨kept, -, blind⟩ | ⟨passed, -⟩
  · exact ⟨k, kept, le_rfl, fun good few => absurd (blind good) few⟩
  · exact ⟨k + 1, passed, Nat.le_succ k, fun _ _ => le_rfl⟩

/-- After a cycle that finds no register wrong, restoring the clock source is due only if it was
before and no transfer counted as good. -/
lemma Course.asleep_of_right {outcome : Except Failure Cycle} (course : Course d outcome d')
    (right : d'.stats.badRegisters = d.stats.badRegisters) (asleep : d'.watch.wakePending = true) :
    d.watch.wakePending = true ∧ d'.stats.goodTransfers = d.stats.goodTransfers := by
  cases course with
  | skipped => exact ⟨asleep, rfl⟩
  | asleep _ restored => cases restored with | failed due => exact ⟨due, rfl⟩
  | lost _ restored fetched =>
    cases fetched with
    | failed => cases restored.awake.symm.trans asleep
  | @digested _ _ d₁ d₂ d₃ _ _ restored fetched verified digested =>
    obtain ⟨watch, stats, -⟩ := fetched.after_restoration restored
    obtain ⟨bad, -, -, wake⟩ := digested.rest
    have awake₂ : d₂.watch.wakePending = false := by rw [watch]
    rw [wake] at asleep
    split at verified
    · cases verified with
      | unread | right => cases awake₂.symm.trans asleep
      | reset | repair =>
        rw [bad, stats] at right
        exact absurd right (Nat.succ_ne_self _)
    · rw [verified, awake₂] at asleep
      cases asleep

/-! ### What holds after an order -/

lemma Step.findsMismatch_of_ordersReset {s : Step (FaultPlan Sensor)}
    (h : s.ordersReset = true) : s.findsMismatch = true := by
  simp only [Step.ordersReset, Option.any_eq_true] at h
  obtain ⟨p, within, ordered⟩ := h
  simp only [Step.findsMismatch, within, Option.any_some]
  exact (Bool.and_eq_true_iff.mp ordered).1

/-- What is known of the steps since a register was last found wrong. -/
structure Probation where
  /-- The blind cycles up to the first one that made reports. -/
  blind : Nat := 0
  /-- Reports were made. -/
  ended : Bool := false

namespace Probation

def next (b : Probation) (s : Step (FaultPlan Sensor)) : Probation :=
  if s.findsMismatch = true then {}
  else if b.ended = true then b
  else { blind := b.blind + s.isBlind.toNat, ended := s.samples }

lemma next_of_mismatch {s : Step (FaultPlan Sensor)} (b : Probation)
    (h : s.findsMismatch = true) : b.next s = {} := if_pos h

lemma ended_next {s : Step (FaultPlan Sensor)} (b : Probation) (right : s.findsMismatch = false)
    (reported : s.samples = true) : (b.next s).ended = true := by
  cases ended : b.ended with
  | true => simp [next, right, ended]
  | false => simp [next, right, ended, reported]

/-- After `steps` that follow a wrong register. -/
def after (steps : List (Step (FaultPlan Sensor))) : Probation := steps.foldl next {}

@[simp] lemma after_concat (steps : List (Step (FaultPlan Sensor)))
    (s : Step (FaultPlan Sensor)) : after (steps ++ [s]) = (after steps).next s := by
  simp [after, List.foldl_append]

end Probation

/-- What holds in a probation: the transfers still to be withheld, the registers passed and the
blind cycles make up the whole count but for the cycle that found the wrong register, and as long as
the clock source is not restored, no other transfer counted. Once the probation is over, the
registers passed and the blind cycles alone make up the whole count. -/
structure Guarded (b : Probation) (d : Driver (FaultPlan Sensor)) : Prop where
  sound : Sound d
  honest : d.bus.Honest
  passed : ∃ k, Trailing k d ∧
    Integrity.settleCount ≤ k + b.blind + if b.ended = true then 0 else d.watch.settling + 1
  asleep : b.ended = false → d.watch.wakePending = true →
    Integrity.settleCount ≤ d.watch.settling + 1

namespace Guarded

variable {b : Probation} {s : Step (FaultPlan Sensor)} {p : Passage (FaultPlan Sensor)}

lemma quiet (h : Guarded b d) (quiet : Quiet False d d') : Guarded b d' := by
  obtain ⟨k, behind, enough⟩ := h.passed
  have watch := quiet.idle.watch
  refine ⟨sound_invariant.quiet quiet h.sound,
    FaultPlan.honest_invariant.invariant.quiet quiet h.honest,
    ⟨k, behind.steady quiet.steady, ?_⟩, fun going asleep => ?_⟩
  · rw [watch]
    exact enough
  · rw [watch] at asleep ⊢
    exact h.asleep going asleep

/-- When a register is found wrong, a probation starts. -/
lemma of_mismatch (sound : Sound s.before) (honest : s.before.bus.Honest)
    (mismatch : s.findsMismatch = true) : Guarded {} s.after := by
  obtain ⟨anew, -⟩ := s.account_of_mismatch mismatch
  have most := Bool.toNat_le s.settles
  have enough : Integrity.settleCount ≤ s.after.watch.settling + 1 := by omega
  exact ⟨sound_invariant.perform s.operation sound,
    FaultPlan.honest_invariant.invariant.perform s.operation honest,
    ⟨0, trailing_zero _, by simpa using enough⟩, fun _ _ => enough⟩

/-- A cycle after the probation that finds no register wrong. -/
lemma cycle_ended (h : Guarded b p.before) (ended : b.ended = true)
    (right : p.findsMismatch = false) : Guarded b p.after := by
  obtain ⟨k, behind, enough⟩ := h.passed
  rw [if_pos ended] at enough
  have course : Course p.before p.outcome p.after := Course.of_measure p.before
  obtain ⟨k', behind', kept, -⟩ :=
    course.advances h.sound h.honest (badRegisters_of_right right) behind
  refine ⟨sound_invariant.course course h.sound,
    FaultPlan.honest_invariant.invariant.course course h.honest, ⟨k', behind', ?_⟩, ?_⟩
  · rw [if_pos ended]
    omega
  · intro going
    rw [ended] at going
    cases going

/-- A cycle in the probation that finds no register wrong, and ends it if it makes reports. -/
lemma cycle (h : Guarded b p.before) (going : b.ended = false) (right : p.findsMismatch = false) :
    Guarded { blind := b.blind + p.isBlind.toNat, ended := p.samples } p.after := by
  obtain ⟨k, behind, enough⟩ := h.passed
  rw [going, if_neg Bool.false_ne_true] at enough
  have course : Course p.before p.outcome p.after := Course.of_measure p.before
  have account : Account p.settles p.samples p.before p.after := course.account
  rcases account.settling with ⟨same, down⟩ | ⟨more, -⟩
  · obtain ⟨k', behind', kept, more⟩ := course.advances h.sound h.honest same behind
    have good := account.good
    have most := Bool.toNat_le p.settles
    have progress (counted : p.before.stats.goodTransfers < p.after.stats.goodTransfers) :
        k + 1 ≤ k' + p.isBlind.toNat := by
      by_cases unread : p.before.stats.badTransfers < p.after.stats.badTransfers
      · have blind : p.isBlind = true := by simp [Passage.isBlind, Passage.isGood, counted, unread]
        rw [blind]
        exact Nat.succ_le_succ kept
      · exact (more counted unread).trans (Nat.le_add_right _ _)
    refine ⟨sound_invariant.course course h.sound,
      FaultPlan.honest_invariant.invariant.course course h.honest,
      ⟨k', behind', ?_⟩, fun unreported asleep => ?_⟩
    · cases reported : p.samples with
      | true =>
        have trusted := account.trusted reported
        rw [reported] at good
        have := progress (by rw [good]; exact Nat.lt_succ_of_le (Nat.le_add_right _ _))
        simp only [if_true]
        omega
      | false =>
        simp only [Bool.false_eq_true, if_false]
        by_cases counted : p.before.stats.goodTransfers < p.after.stats.goodTransfers
        · have := progress counted
          omega
        · omega
    · obtain ⟨asleep, uncounted⟩ := course.asleep_of_right same asleep
      have enough := h.asleep going asleep
      omega
  · exact absurd more (of_decide_eq_false right)

/-- The cycle within a step. -/
lemma passage (h : Guarded b s.before) (within : s.passage? = some p)
    (right : s.findsMismatch = false) : Guarded (b.next s) p.after := by
  rw [Probation.next, if_neg (by rw [right]; exact Bool.false_ne_true)]
  cases Progress.of_step s with
  | quiet without => simp [within] at without
  | reset without => simp [within] at without
  | cycle within' _ first =>
    rw [within] at within'
    cases within'
    simp only [Step.findsMismatch, within, Option.any_some] at right
    simp only [Step.isBlind, Step.samples, within, Option.any_some]
    cases ended : b.ended with
    | true => exact (h.quiet first).cycle_ended ended right
    | false => exact (h.quiet first).cycle ended right

/-- What is known after a step, given what was known before it. -/
lemma step (h : Guarded b s.before) (gentle : s.operation.isReset = false) :
    Guarded (b.next s) s.after := by
  cases mismatch : s.findsMismatch with
  | true =>
    rw [b.next_of_mismatch mismatch]
    exact of_mismatch h.sound h.honest mismatch
  | false =>
    cases Progress.of_step s with
    | quiet without _ quiet =>
      rw [gentle] at quiet
      have same : b.next s = b := by
        obtain ⟨blind, ended⟩ := b
        cases ended with
        | true => simp [Probation.next, mismatch]
        | false => simp [Probation.next, mismatch, Step.isBlind, Step.samples, without]
      rw [same]
      exact h.quiet (quiet.mono Bool.false_ne_true)
    | reset _ took => simp [Step.resets, gentle] at took
    | cycle within _ _ last => exact (h.passage within mismatch).quiet last

/-- After a probation with few blind cycles, all registers are right. -/
lemma configured (h : Guarded b d) (ended : b.ended = true)
    (few : b.blind + 8 ≤ Integrity.settleCount) : Configured d := by
  obtain ⟨k, behind, enough⟩ := h.passed
  rw [if_pos ended] at enough
  exact behind.configured (by omega)

end Guarded

/-! ### Runs -/

/-- A state from which a register is still wrong when reports are made. The sensor was brought up,
then two registers changed; the reset that is ordered does not reach the sensor, and thirteen reads
of registers fail after it. -/
def misled : Driver (FaultPlan Sensor) :=
  broughtUp.withBus
    { inner :=
        { broughtUp.bus.inner with
          registers :=
            broughtUp.bus.inner.registers.setIfInBounds 0x6B Register.asleep
              |>.setIfInBounds 0x37 0 }
      plan := [.pass, .pass, .fail, .pass] ++ (List.replicate 13 [.pass, .fail]).flatten }

namespace misled

lemma honest : misled.bus.Honest := by
  have plan : ∀ fault ∈ misled.bus.plan, fault = .pass ∨ fault = .fail := by decide +kernel
  intro mask member
  rcases plan _ member with pass | fail
  · cases pass
  · cases fail

/-- The cycle that orders the reset. -/
def order : Step (FaultPlan Sensor) := ⟨.measure, misled⟩

/-- What is done up to the cycle that makes reports. -/
def waiting : List Operation := .wait 10000 :: List.replicate 19 .measure

/-- The cycle that makes reports. -/
def final : Passage (FaultPlan Sensor) := ⟨(performAll waiting order.after).2⟩

/-- The step in which it runs. -/
def good : Step (FaultPlan Sensor) := ⟨.measure, (performAll waiting order.after).2⟩

lemma within : good.passage? = some final := Step.passage?_measure _

lemma run : history (.measure :: (waiting ++ [.measure])) misled =
    order :: (history waiting order.after ++ [good]) :=
  congrArg (order :: ·) (history_append_cons waiting .measure [] order.after)

lemma gentle : ∀ step ∈ history waiting order.after, step.operation.isReset = false := by
  have operations : ∀ op ∈ waiting, op.isReset = false := by decide
  exact fun step member => operations step.operation (operation_mem member)

lemma outcome : order.ordersReset = true ∧ good.samples = true ∧
    (Probation.after (history waiting order.after ++ [good])).blind = 13 ∧
    ¬Right 7 final.after := by
  unfold Right
  decide +kernel

end misled

/-- After a reset was ordered, reports are made only with all registers right, as long as at most
twelve blind cycles went by between the last wrong register and the first reports after it, and no
longer. -/
theorem configured_iff_few_blind (k : Nat) :
    (∀ (d : Driver (FaultPlan Sensor)) (ops : List Operation)
        (between later : List (Step (FaultPlan Sensor))) (order good : Step (FaultPlan Sensor)),
        Ready d → d.bus.Honest → history ops d = order :: (between ++ good :: later) →
        order.ordersReset = true → (∀ step ∈ between, step.operation.isReset = false) →
        good.samples = true → (Probation.after (between ++ [good])).blind ≤ k →
        ∀ p, good.passage? = some p → Configured p.after) ↔
      k + 8 ≤ Integrity.settleCount := by
  constructor
  · intro claim
    by_contra many
    have enough : 13 ≤ k := by
      have : Integrity.settleCount = 20 := rfl
      omega
    obtain ⟨ordered, reported, blind, wrong⟩ := misled.outcome
    have configured := claim misled _ _ [] misled.order misled.good (ready_broughtUp _)
      misled.honest misled.run ordered misled.gentle reported (blind.trans_le enough)
      misled.final misled.within
    exact wrong (configured 7)
  · intro few d ops between later order good ready honest run ordered gentle reported blind p within
    obtain ⟨rfl, ops', rest⟩ := history_eq_cons run
    have guarded : Guarded (.after between) good.before := by
      refine history_keeps (I := fun past d => Guarded (.after past) d) rest.symm ?_ ?_
      · exact .of_mismatch ready.sound honest (Step.findsMismatch_of_ordersReset ordered)
      · intro past s member h
        rw [Probation.after_concat]
        exact h.step (gentle s member)
    have right : good.findsMismatch = false := by
      by_contra mismatch
      have unreported := (good.account_of_mismatch (by simpa using mismatch)).2
      rw [reported] at unreported
      cases unreported
    rw [Probation.after_concat] at blind
    refine (guarded.passage within right).configured (Probation.ended_next _ right reported) ?_
    omega

/-- The sensor on which reports are made with a register wrong: two registers changed after
bring-up, the reset that was ordered does not reach it, and thirteen reads of registers fail. -/
theorem sampled_while_misconfigured :
    Ready misled ∧ misled.bus.Honest ∧
      history (.measure :: (misled.waiting ++ [.measure])) misled =
        misled.order :: (history misled.waiting misled.order.after ++ [misled.good]) ∧
      misled.order.ordersReset = true ∧
      (∀ step ∈ history misled.waiting misled.order.after, step.operation.isReset = false) ∧
      misled.good.samples = true ∧ misled.good.passage? = some misled.final ∧
      ¬Configured misled.final.after :=
  ⟨ready_broughtUp _, misled.honest, misled.run, misled.outcome.1, misled.gentle,
    misled.outcome.2.1, misled.within, fun configured => misled.outcome.2.2.2 (configured 7)⟩

end InertialSensor.Driver
