import InertialSensor.Proofs.Driver.Journal
import InertialSensor.Simulation.Sensor

/-!
# Holding and waking

A register found wrong forbids transfers up to a deadline: until then cycles are skipped, attempt no
transfer and change nothing. If a reset was ordered, the clock source has to be restored after that.
Each cycle then attempts this write before anything else, and does nothing more if it fails.

The watch keeps both obligations, the deadline (`Course.deadline`) and the restoration that is due
(`Waking.of_course`), through whatever happens except what discharges them.
-/

namespace InertialSensor

namespace Passage

variable {σ : Type} [Transport σ]

/-- Microseconds for which the order given in the cycle forbids transfers. -/
def hold (p : Passage σ) : UInt64 :=
  if p.ordersReset = true then Integrity.resetHold else Integrity.repairHold

/-- The write that restores the clock source: the value that the shadow keeps for the power
register, which is the first one checked. -/
def clockWrite (p : Passage (Journal σ)) (succeeded : Bool) : Transfer :=
  .write Register.power p.before.watch.shadow.rewind.value succeeded

/-- The cycle restores the clock source. -/
def restoresClock (p : Passage (Journal σ)) : Bool := p.clockWrite true ∈ p.transfers

/-- The cycle is skipped: it attempts no transfer and changes nothing. -/
def IsSkipped (p : Passage (Journal σ)) : Prop :=
  p.outcome = .ok .skipped ∧ p.transfers = [] ∧ p.after = p.before

/-- The cycle attempts to restore the clock source before anything else, and fails without another
transfer if that does not succeed. -/
def RestoresFirst (p : Passage (Journal σ)) : Prop :=
  ∃ succeeded rest, p.transfers = p.clockWrite succeeded :: rest ∧
    (succeeded = false → rest = [] ∧ ∃ text, p.outcome = .error (.bus text))

end Passage

namespace Driver

open Routine

/-! ### The deadline -/

section

variable {σ : Type} {d d₁ d' : Driver σ}

variable [Transport σ]

/-- A cycle moves the deadline exactly if it finds a register wrong. -/
lemma Course.deadline {outcome : Except Failure Cycle} (course : Course d outcome d') :
    d'.stats.badRegisters = d.stats.badRegisters ∧ d'.watch.holdUntil = d.watch.holdUntil ∨
      d.stats.badRegisters < d'.stats.badRegisters ∧
        d'.watch.holdUntil = d.now +
          if d'.watch.wakePending = true then Integrity.resetHold else Integrity.repairHold := by
  cases course with
  | skipped => exact .inl ⟨rfl, rfl⟩
  | asleep _ restored => cases restored with | failed => exact .inl ⟨rfl, rfl⟩
  | lost _ restored fetched =>
    cases fetched with
    | failed => cases restored with | notDue | done => exact .inl ⟨rfl, rfl⟩
  | @digested _ _ _ d₂ d₃ _ _ restored fetched verified digested =>
    obtain ⟨watch, stats, now⟩ := fetched.after_restoration restored
    have bad : d₂.stats.badRegisters = d.stats.badRegisters := by rw [stats]
    obtain ⟨holdUntil, wake, bad'⟩ := digested.deadline
    rw [holdUntil, wake, bad', ← now, ← bad]
    split at verified
    · cases verified with
      | unread | right => exact .inl ⟨rfl, by rw [watch]⟩
      | reset => exact .inr ⟨Nat.lt_succ_self _, rfl⟩
      | repair =>
        refine .inr ⟨Nat.lt_succ_self _, ?_⟩
        rw [watch]
        rfl
    · exact .inl ⟨by rw [verified], by rw [verified, watch]⟩

/-- The cycle that finds a register wrong sets the deadline. -/
lemma holdUntil_of_mismatch {p : Passage σ} (mismatch : p.findsMismatch = true) :
    p.after.watch.holdUntil = p.before.now + p.hold := by
  rcases (Course.of_measure p.before).deadline with ⟨same, -⟩ | ⟨-, set⟩
  · exact absurd same (of_decide_eq_true mismatch).ne'
  · have order : p.ordersReset = p.after.watch.wakePending := by
      rw [Passage.ordersReset, mismatch, Bool.true_and]
    rw [Passage.hold, order]
    exact set

/-- A step without a reset on request moves the deadline only if it finds a register wrong. -/
lemma Step.holdUntil_of_right {s : Step σ} (vain : s.resets = false)
    (right : s.findsMismatch = false) : s.after.watch.holdUntil = s.before.watch.holdUntil := by
  cases Progress.of_step s with
  | quiet _ _ quiet => rw [quiet.idle.watch]
  | reset _ took =>
    rw [vain] at took
    cases took
  | @cycle p within _ first last =>
    rw [last.idle.watch]
    have before : p.before.watch.holdUntil = s.before.watch.holdUntil := by rw [first.idle.watch]
    rw [← before]
    rcases (Course.of_measure p.before).deadline with ⟨-, same⟩ | ⟨more, -⟩
    · exact same
    · simp only [Step.findsMismatch, within, Option.any_some] at right
      exact absurd more (of_decide_eq_false right)

/-- Before the deadline, cycles are skipped. -/
lemma measure_of_holding (holding : d.now < d.watch.holdUntil) :
    measure d = (.ok .skipped, d) :=
  measure_of_suspended (by simp [isSuspended, Integrity.Watch.isHolding, holding])

end

/-! ### The restoration that is due -/

variable {σ : Type} [Transport σ] {d d' : Driver (Journal σ)}

/-- A cycle within the step restores the clock source. -/
def Step.restoresClock (s : Step (Journal σ)) : Bool := s.passage?.any Passage.restoresClock

/-- The ways a cycle can go while restoring the clock source is due: it is skipped, or it attempts
the restoration first and goes on only after a success. -/
inductive Waking (d : Driver (Journal σ)) : Except Failure Cycle → Driver (Journal σ) → Prop where
  | skipped (suspended : d.isSuspended = true) : Waking d (.ok .skipped) d
  | vain {text : String} {d' : Driver (Journal σ)} (active : d.isSuspended = false)
      (attempted : d'.bus.entries =
        d.bus.entries ++ [.write Register.power (d.watch.shadow.values.get 0) false])
      (watch : d'.watch = d.watch) : Waking d (.error (.bus text)) d'
  | restored {outcome : Except Failure Cycle} {rest : List Transfer} {d' : Driver (Journal σ)}
      (active : d.isSuspended = false)
      (attempted : d'.bus.entries =
        d.bus.entries ++ .write Register.power (d.watch.shadow.values.get 0) true :: rest) :
      Waking d outcome d'

/-- What a successful restoration writes down. -/
lemma Restoration.entries (restored : Restoration d (.ok ()) d')
    (due : d.watch.wakePending = true) :
    d'.bus.entries =
      d.bus.entries ++ [.write Register.power (d.watch.shadow.values.get 0) true] := by
  cases restored with
  | notDue notDue =>
    rw [notDue] at due
    cases due
  | done _ succeeds =>
    simp only [Journal.entries_write, succeeds]
    rfl

lemma Waking.of_course {outcome : Except Failure Cycle} (course : Course d outcome d')
    (due : d.watch.wakePending = true) : Waking d outcome d' := by
  -- once the restoration is written down, the rest of the cycle only adds entries
  have goes_on {d₁ : Driver (Journal σ)} (active : d.isSuspended = false)
      (restored : Restoration d (.ok ()) d₁) (later : d₁.bus.entries <+: d'.bus.entries) :
      Waking d outcome d' := by
    obtain ⟨rest, entries⟩ := later
    rw [restored.entries due, List.append_assoc] at entries
    exact .restored active entries.symm
  have kept (past : List Transfer) := (Journal.prefix_invariant (σ := σ) past).invariant
  cases course with
  | skipped suspended => exact .skipped suspended
  | asleep active restored =>
    cases restored with
    | failed _ failed =>
      refine .vain active ?_ rfl
      simp only [Journal.entries_write, failed]
      rfl
  | @lost _ d₁ _ active restored fetched =>
    exact goes_on active restored
      ((kept _).fetching fetched ((kept _).counting (List.prefix_refl d₁.bus.entries)))
  | @digested _ _ d₁ d₂ d₃ _ active restored fetched verified digested =>
    have fetched : d₁.bus.entries <+: d₂.bus.entries :=
      (kept _).fetching fetched ((kept _).counting (List.prefix_refl _))
    refine goes_on active restored ((kept _).digestion digested ?_)
    split at verified
    · exact (kept _).verification verified fetched
    · exact verified ▸ fetched

/-- The restoration stays due in a step that neither restores the clock source nor resets the chip
on request with success. -/
lemma Step.wakePending_of_unrestored {s : Step (Journal σ)}
    (due : s.before.watch.wakePending = true) (vain : s.resets = false)
    (unrestored : s.restoresClock = false) : s.after.watch.wakePending = true := by
  cases Progress.of_step s with
  | quiet _ _ quiet =>
    rw [quiet.idle.watch]
    exact due
  | reset _ took =>
    rw [vain] at took
    cases took
  | @cycle p within _ first last =>
    have due : p.before.watch.wakePending = true := by
      rw [first.idle.watch]
      exact due
    rw [last.idle.watch]
    simp only [Step.restoresClock, within, Option.any_some] at unrestored
    have waking : Waking p.before p.outcome p.after := .of_course (.of_measure p.before) due
    generalize result : p.outcome = outcome at waking
    generalize after : p.after = d' at waking
    cases waking with
    | skipped => exact after ▸ due
    | vain _ _ watch =>
      rw [watch]
      exact due
    | restored _ attempted =>
      have transfers := Passage.transfers_eq (p := p) (after ▸ attempted)
      rw [Passage.restoresClock, transfers] at unrestored
      exact absurd List.mem_cons_self (of_decide_eq_false unrestored)

/-! ### Runs -/

lemma isSkipped_of_measure {p : Passage (Journal σ)}
    (h : measure p.before = (.ok .skipped, p.before)) : p.IsSkipped := by
  have after : p.after = p.before := congrArg Prod.snd h
  exact ⟨congrArg Prod.fst h, Passage.transfers_of_same (by rw [after]), after⟩

/-- While restoring the clock source is due, a cycle restores it first unless it is skipped. -/
lemma restoresFirst_of_due {p : Passage (Journal σ)} (due : p.before.watch.wakePending = true) :
    (p.before.isSuspended = true → p.IsSkipped) ∧
      (p.before.isSuspended = false → p.RestoresFirst) := by
  have waking : Waking p.before p.outcome p.after := .of_course (.of_measure p.before) due
  generalize result : p.outcome = outcome at waking
  generalize after : p.after = d' at waking
  cases waking with
  | skipped suspended =>
    exact ⟨fun _ => isSkipped_of_measure (Prod.ext result after),
      fun active => Bool.noConfusion (active.symm.trans suspended)⟩
  | vain active attempted =>
    exact ⟨fun suspended => Bool.noConfusion (active.symm.trans suspended),
      fun _ => ⟨false, [], Passage.transfers_eq (after ▸ attempted), fun _ => ⟨rfl, _, result⟩⟩⟩
  | restored active attempted =>
    exact ⟨fun suspended => Bool.noConfusion (active.symm.trans suspended),
      fun _ => ⟨true, _, Passage.transfers_eq (after ▸ attempted), nofun⟩⟩

/-- After a cycle found a register wrong, and unless the chip was reset on request with success
since: every cycle before the deadline that was last set is skipped; and if a reset was ordered,
every later cycle that is not skipped attempts to restore the clock source before anything else, and
does nothing more if that fails, until one has restored it. -/
theorem held_and_woken_after_mismatch {ops : List Operation}
    {earlier between later : List (Step (Journal σ))} {wrong s : Step (Journal σ)}
    {found p : Passage (Journal σ)}
    (run : history ops d = earlier ++ wrong :: (between ++ s :: later))
    (first : wrong.passage? = some found) (mismatch : found.findsMismatch = true)
    (unreset : ∀ step ∈ between, step.resets = false) (cycle : s.passage? = some p) :
    ((∀ step ∈ between, step.findsMismatch = false) →
        found.before.now.toNat + found.hold.toNat < UInt64.size →
        p.before.now.toNat < found.before.now.toNat + found.hold.toNat → p.IsSkipped) ∧
      (found.ordersReset = true → (∀ step ∈ between, step.restoresClock = false) →
        (p.before.isSuspended = true → p.IsSkipped) ∧
          (p.before.isSuspended = false → p.RestoresFirst)) := by
  obtain ⟨ops', rest⟩ := history_after run
  have untouched : p.before.watch = s.before.watch ∧ found.before.watch = wrong.before.watch := by
    obtain ⟨_, before⟩ := s.before_of_passage? cycle
    obtain ⟨_, before'⟩ := wrong.before_of_passage? first
    exact ⟨by rw [before], by rw [before']⟩
  have last : Quiet False found.after wrong.after := by
    cases Progress.of_step wrong with
    | quiet without => rw [without] at first; cases first
    | reset without => rw [without] at first; cases first
    | cycle within _ _ last =>
      rw [first] at within
      cases within
      exact last
  constructor
  · intro right unwrapped early
    have deadline : s.before.watch.holdUntil = found.before.now + found.hold := by
      refine history_keeps
        (I := fun _ d => d.watch.holdUntil = found.before.now + found.hold) rest.symm ?_ ?_
      · rw [last.idle.watch]
        exact holdUntil_of_mismatch mismatch
      · intro _ step member set
        exact (step.holdUntil_of_right (unreset step member) (right step member)).trans set
    refine isSkipped_of_measure (measure_of_holding ?_)
    rw [untouched.1, deadline, UInt64.lt_iff_toNat_lt, UInt64.toNat_add, Nat.mod_eq_of_lt unwrapped]
    exact early
  · intro ordered unrestored
    refine restoresFirst_of_due ?_
    rw [untouched.1]
    refine history_keeps (I := fun _ d => d.watch.wakePending = true) rest.symm ?_ ?_
    · rw [last.idle.watch]
      exact (Bool.and_eq_true_iff.mp ordered).2
    · intro _ step member due
      exact step.wakePending_of_unrestored due (unreset step member) (unrestored step member)

/-! ### A chip that was never configured -/

/-- The step that runs just this cycle. -/
def Step.cycle (p : Passage σ) : Step σ := ⟨.measure, p.before⟩

omit [Transport σ] in
lemma Step.passage?_cycle (p : Passage σ) : (Step.cycle p).passage? = some p := rfl

namespace unconfigured

/-- The first cycle. -/
def found : Passage (Journal Simulation.Sensor) := ⟨.new ⟨.new .internal, []⟩ .start {}⟩

/-- The cycle right after that. -/
def soon : Passage (Journal Simulation.Sensor) := ⟨(Step.cycle found).after⟩

/-- The first cycle after the deadline. -/
def late : Passage (Journal Simulation.Sensor) :=
  ⟨(performAll [.wait 10000] (Step.cycle found).after).2⟩

lemma run_soon : history [.measure, .measure] found.before =
    [] ++ .cycle found :: ([] ++ [.cycle soon]) :=
  congrArg (Step.cycle found :: ·) (history_append_cons [] .measure [] (Step.cycle found).after)

lemma run_late : history [.measure, .wait 10000, .measure] found.before =
    [] ++ .cycle found :: (history [.wait 10000] (Step.cycle found).after ++ [.cycle late]) :=
  congrArg (Step.cycle found :: ·)
    (history_append_cons [.wait 10000] .measure [] (Step.cycle found).after)

end unconfigured

open unconfigured in
/-- A chip that was never configured is found wrong in the first cycle. A cycle right after that is
skipped, and the first one after the deadline restores the clock source first. -/
theorem held_and_woken_after_power_on :
    soon.IsSkipped ∧ late.RestoresFirst := by
  have mismatch : found.findsMismatch = true := by decide +kernel
  constructor
  · have unwrapped : found.before.now.toNat + found.hold.toNat < UInt64.size := by decide +kernel
    have early : soon.before.now.toNat < found.before.now.toNat + found.hold.toNat := by
      decide +kernel
    exact (held_and_woken_after_mismatch run_soon (Step.passage?_cycle found) mismatch
      (List.forall_mem_nil _) (Step.passage?_cycle soon)).1 (List.forall_mem_nil _)
      unwrapped early
  · have ordered : found.ordersReset = true := by decide +kernel
    have unreset : ∀ step ∈ history [.wait 10000] (Step.cycle found).after,
        step.resets = false := by
      decide +kernel
    have unrestored : ∀ step ∈ history [.wait 10000] (Step.cycle found).after,
        step.restoresClock = false := by
      decide +kernel
    have active : late.before.isSuspended = false := by decide +kernel
    exact ((held_and_woken_after_mismatch run_late (Step.passage?_cycle found) mismatch
      unreset (Step.passage?_cycle late)).2 ordered unrestored).2 active

end Driver

end InertialSensor
