import InertialSensor.Proofs.Driver.History
import InertialSensor.Simulation.Sensor

/-!
# Settling

After a register was found wrong, the data of exactly `settleCount` good transfers is withheld
before reports are made again. Nothing else that happens in between counts towards these transfers
or starts the count anew, except that another register is found wrong or the chip is reset on
request with success.

What a stage, a cycle or a step does to the quantities concerned is its `Account`. The transfers
withheld so far and those still to be withheld make up a constant, and the theorem sums this up over
a run.
-/

namespace InertialSensor.Driver

variable {σ : Type} {d d' d'' : Driver σ} {withheld made : Bool}

/-! ### Accounts -/

/-- What a change of the state does to the transfers still to be withheld, given whether data was
withheld and whether reports were made: either no register was found wrong and they are counted
down, or one was and the count starts anew. -/
structure Account (withheld made : Bool) (d d' : Driver σ) : Prop where
  settling :
    d'.stats.badRegisters = d.stats.badRegisters ∧
        d'.watch.settling + withheld.toNat = d.watch.settling ∨
      d.stats.badRegisters < d'.stats.badRegisters ∧
        d'.watch.settling + withheld.toNat = Integrity.settleCount ∧ made = false
  trusted : made = true → d.watch.settling = 0
  good : d'.stats.goodTransfers = d.stats.goodTransfers + withheld.toNat + made.toNat
  silent : made = false → Silent d d'

namespace Account

lemma of_same (bad : d'.stats.badRegisters = d.stats.badRegisters)
    (settling : d'.watch.settling = d.watch.settling)
    (good : d'.stats.goodTransfers = d.stats.goodTransfers) (silent : Silent d d') :
    Account false false d d' where
  settling := .inl ⟨bad, settling⟩
  trusted := nofun
  good := good
  silent _ := silent

lemma of_idle (h : Idle d d') : Account false false d d' :=
  .of_same (by rw [h.stats]) (by rw [h.watch]) (by rw [h.stats]) h.silent

/-- No reports are made right after a register was found wrong. -/
lemma trans (h : Account false false d d') (h' : Account withheld made d' d'') :
    Account withheld made d d'' := by
  have trusted (reported : made = true) : d'.stats.badRegisters = d.stats.badRegisters ∧
      d.watch.settling = 0 := by
    have settled := h'.trusted reported
    rcases h.settling with ⟨same, down⟩ | ⟨_, anew, _⟩
    · exact ⟨same, by rw [← down, settled]; rfl⟩
    · rw [settled] at anew
      cases anew
  refine ⟨?_, fun reported => (trusted reported).2, ?_, fun unmade => ?_⟩
  · rcases h'.settling with ⟨same', down'⟩ | ⟨more', anew', unmade⟩
    · rcases h.settling with ⟨same, down⟩ | ⟨more, anew, -⟩
      · exact .inl ⟨same'.trans same, down'.trans down⟩
      · refine .inr ⟨same' ▸ more, down'.trans anew, ?_⟩
        by_contra reported
        have same := (trusted (by simpa using reported)).1
        exact more.ne same.symm
    · refine .inr ⟨?_, anew', unmade⟩
      rcases h.settling with ⟨same, -⟩ | ⟨more, -⟩
      · exact same ▸ more'
      · exact more.trans more'
  · rw [h'.good, h.good]
    rfl
  · exact (h.silent rfl).trans (h'.silent unmade)

lemma trans_idle (h : Account withheld made d d') (h' : Idle d' d'') :
    Account withheld made d d'' := by
  have settling : d''.watch.settling = d'.watch.settling := by rw [h'.watch]
  have bad : d''.stats.badRegisters = d'.stats.badRegisters := by rw [h'.stats]
  have good : d''.stats.goodTransfers = d'.stats.goodTransfers := by rw [h'.stats]
  refine ⟨?_, h.trusted, good ▸ h.good, fun unmade => (h.silent unmade).trans h'.silent⟩
  rw [settling, bad]
  exact h.settling

end Account

/-! ### One cycle -/

variable [Transport σ]

lemma Restoration.account {result : Except Failure Unit} (h : Restoration d result d') :
    Account false false d d' := by
  cases h with
  | notDue | failed | done => exact .of_same rfl rfl rfl (.of_same rfl rfl)

lemma Fetching.account {result : Except Failure (Vector UInt8 blockSize)}
    (h : Fetching d result d') : Account false false d d' := by
  cases h with
  | failed | fetched => exact .of_same rfl rfl rfl (.of_same rfl rfl)

lemma Verification.account (h : Verification d d') : Account false false d d' := by
  cases h with
  | unread | right => exact .of_same rfl rfl rfl (.of_same rfl rfl)
  | reset | repair =>
    exact ⟨.inr ⟨Nat.lt_succ_self _, rfl, rfl⟩, nofun, rfl, fun _ => .of_same rfl rfl⟩

omit [Transport σ] in
lemma Digestion.account {block : Vector UInt8 blockSize} {outcome : Except Failure Cycle}
    (h : Digestion block d outcome d') :
    Account (isSettling outcome) (isSampled outcome) d d' := by
  cases h with
  | repeated | empty => exact .of_same rfl rfl rfl (.of_same rfl rfl)
  | withheld guard recovering =>
    exact ⟨.inl ⟨rfl, Nat.sub_one_add_one recovering⟩, nofun, rfl, fun _ => .of_same rfl rfl⟩
  | accepted guard closed streams temperature published trusted =>
    exact ⟨.inl ⟨rfl, rfl⟩, fun _ => trusted, rfl, nofun⟩

lemma Course.account {outcome : Except Failure Cycle} (h : Course d outcome d') :
    Account (isSettling outcome) (isSampled outcome) d d' := by
  have counted (d : Driver σ) : Account false false d d.countedCycle :=
    .of_same rfl rfl rfl (.of_same rfl rfl)
  cases h with
  | skipped => exact .of_same rfl rfl rfl (.of_same rfl rfl)
  | asleep _ restored => exact restored.account
  | lost _ restored fetched => exact restored.account.trans ((counted _).trans fetched.account)
  | @digested _ _ d₁ d₂ d₃ _ _ restored fetched verified digested =>
    have prepared : Account false false d d₂ :=
      restored.account.trans ((counted _).trans fetched.account)
    have checked : Account false false d₂ d₃ := by
      split at verified
      · exact verified.account
      · exact verified ▸ .of_same rfl rfl rfl (.of_same rfl rfl)
    exact prepared.trans (checked.trans digested.account)

/-- In a cycle that finds no register wrong, none is counted. -/
lemma badRegisters_of_right {p : Passage σ} (right : p.findsMismatch = false) :
    p.after.stats.badRegisters = p.before.stats.badRegisters := by
  rcases (Course.of_measure p.before).account.settling with ⟨same, -⟩ | ⟨more, -⟩
  · exact same
  · exact absurd more (of_decide_eq_false right)

/-! ### One step -/

namespace Step

variable {s : Step σ}

/-- The account of a step that is not a reset with success. -/
lemma account (vain : s.resets = false) : Account s.settles s.samples s.before s.after := by
  cases Progress.of_step s with
  | quiet without _ quiet =>
    rw [settles, samples, without]
    exact .of_idle quiet.idle
  | reset _ took => simp [took] at vain
  | cycle within _ first last =>
    rw [settles, samples, within]
    exact (Account.of_idle first.idle).trans
      ((Course.of_measure _).account.trans_idle last.idle)

/-- A count that only cycles raise grows in a step exactly if it grows in the cycle within. -/
lemma grows_iff (count : Stats → Nat)
    (same : ∀ {d d' : Driver σ}, Idle d d' → count d'.stats = count d.stats) (s : Step σ) :
    (s.passage?.any fun p => decide (count p.before.stats < count p.after.stats)) = true ↔
      count s.before.stats < count s.after.stats := by
  cases Progress.of_step s with
  | quiet without _ quiet =>
    simp [without, same quiet.idle]
  | reset without _ first last =>
    simp [without, same last.idle, same first.idle]
  | cycle within _ first last =>
    rw [within, same last.idle, ← same first.idle]
    exact decide_eq_true_iff

lemma findsMismatch_iff (s : Step σ) :
    s.findsMismatch = true ↔ s.before.stats.badRegisters < s.after.stats.badRegisters :=
  grows_iff (·.badRegisters) (fun h => by rw [h.stats]) s

lemma isGood_iff (s : Step σ) :
    s.isGood = true ↔ s.before.stats.goodTransfers < s.after.stats.goodTransfers :=
  grows_iff (·.goodTransfers) (fun h => by rw [h.stats]) s

lemma vain_of_mismatch (h : s.findsMismatch = true) : s.resets = false :=
  vain_of_passage fun without => by simp [findsMismatch, without] at h

/-- When a register is found wrong the count starts anew, and no reports are made. -/
lemma account_of_mismatch (h : s.findsMismatch = true) :
    s.after.watch.settling + s.settles.toNat = Integrity.settleCount ∧ s.samples = false := by
  rcases (account (vain_of_mismatch h)).settling with ⟨same, -⟩ | ⟨-, anew⟩
  · exact absurd same (s.findsMismatch_iff.mp h).ne'
  · exact anew

/-- A cycle that makes reports finds no register wrong. -/
lemma right_of_samples (h : s.samples = true) : s.findsMismatch = false := by
  by_contra mismatch
  have unreported := (account_of_mismatch (by simpa using mismatch)).2
  rw [h] at unreported
  cases unreported

/-- When no register is found wrong the count goes down with each transfer withheld. -/
lemma settling_of_right (vain : s.resets = false) (h : s.findsMismatch = false) :
    s.after.watch.settling + s.settles.toNat = s.before.watch.settling := by
  rcases (account vain).settling with ⟨-, down⟩ | ⟨more, -⟩
  · exact down
  · rw [s.findsMismatch_iff.mpr more] at h
    cases h

/-- Reports are made only when nothing is left to be withheld. -/
lemma settling_of_samples (h : s.samples = true) : s.before.watch.settling = 0 := by
  have vain : s.resets = false := vain_of_passage fun without => by simp [samples, without] at h
  exact (account vain).trusted h

/-- The data of a good transfer is withheld or makes reports. -/
lemma settles_or_samples (vain : s.resets = false) (good : s.isGood = true) :
    s.settles = true ∨ s.samples = true := by
  have more := s.isGood_iff.mp good
  rw [(account vain).good] at more
  by_contra neither
  obtain ⟨unsettled, unsampled⟩ := not_or.mp neither
  rw [Bool.not_eq_true] at unsettled unsampled
  rw [unsettled, unsampled] at more
  exact lt_irrefl _ more

end Step

/-! ### Runs -/

/-- After `wrong` found a wrong register, and after steps `past` that found none: the transfers
withheld so far and those still to be withheld make up the whole count, and the good transfers are
those withheld and those of which reports were made. -/
structure Withholding (wrong : Step σ) (past : List (Step σ)) (d : Driver σ) : Prop where
  total : (wrong :: past).countP Step.settles + d.watch.settling = Integrity.settleCount
  good : d.stats.goodTransfers = wrong.before.stats.goodTransfers +
    ((wrong :: past).countP Step.settles + past.countP Step.samples)

namespace Withholding

lemma start {wrong : Step σ} (mismatch : wrong.findsMismatch = true) :
    Withholding wrong [] wrong.after := by
  obtain ⟨anew, unmade⟩ := wrong.account_of_mismatch mismatch
  have good := (wrong.account (Step.vain_of_mismatch mismatch)).good
  constructor
  · rw [Step.countP_singleton, Nat.add_comm]
    exact anew
  · rw [Step.countP_singleton, good, unmade]
    rfl

lemma step {wrong s : Step σ} {past : List (Step σ)} (h : Withholding wrong past s.before)
    (vain : s.resets = false) (right : s.findsMismatch = false) :
    Withholding wrong (past ++ [s]) s.after := by
  constructor
  · rw [← h.total, ← s.settling_of_right vain right, ← List.cons_append]
    simp only [Step.countP_concat]
    omega
  · rw [(s.account vain).good, h.good, ← List.cons_append]
    simp only [Step.countP_concat]
    omega

end Withholding

/-- When reports are made again, exactly `settleCount` good transfers were withheld since a register
was last found wrong, counting the cycle that found it, unless the chip was reset on request in
between. All other good transfers since then made reports; and a step that made none published
nothing and put nothing into a backlog. -/
theorem withheld_after_mismatch {ops : List Operation} {d : Driver σ}
    {earlier between later : List (Step σ)} {wrong good : Step σ}
    (run : history ops d = earlier ++ wrong :: (between ++ good :: later))
    (mismatch : wrong.findsMismatch = true)
    (last : ∀ step ∈ between, step.findsMismatch = false)
    (undisturbed : ∀ step ∈ between, step.resets = false)
    (reported : good.samples = true) :
    (wrong :: between).countP Step.settles = Integrity.settleCount ∧
      good.before.stats.goodTransfers = wrong.before.stats.goodTransfers +
        (Integrity.settleCount + between.countP Step.samples) ∧
      wrong.IsSilent ∧ ∀ step ∈ between, step.samples = false → step.IsSilent := by
  obtain ⟨ops', rest⟩ := history_after run
  have withholding : Withholding wrong between good.before :=
    history_keeps (I := Withholding wrong) rest.symm (.start mismatch)
      fun _ step member h => h.step (undisturbed step member) (last step member)
  have total := withholding.total
  rw [Step.settling_of_samples reported, Nat.add_zero] at total
  refine ⟨total, total ▸ withholding.good, ?_, fun step member unreported => ?_⟩
  · exact (wrong.account (Step.vain_of_mismatch mismatch)).silent
      (wrong.account_of_mismatch mismatch).2
  · exact (step.account (undisturbed step member)).silent unreported

/-- A chip that was never configured is reset in the first cycle, and makes reports in the
twentieth good cycle after that. -/
theorem withheld_after_power_on :
    let wrong : Step Simulation.Sensor := ⟨.measure, .new (.new .internal) .start {}⟩
    let waiting := .wait 10000 :: List.replicate 19 .measure
    let good : Step Simulation.Sensor := ⟨.measure, (performAll waiting wrong.after).2⟩
    (wrong :: history waiting wrong.after).countP Step.settles = Integrity.settleCount ∧
      good.before.stats.goodTransfers = wrong.before.stats.goodTransfers +
        (Integrity.settleCount + (history waiting wrong.after).countP Step.samples) ∧
      wrong.IsSilent ∧
        ∀ step ∈ history waiting wrong.after, step.samples = false → step.IsSilent := by
  intro wrong waiting good
  have run : history (.measure :: (waiting ++ [.measure])) wrong.before =
      [] ++ wrong :: (history waiting wrong.after ++ [good]) :=
    congrArg (wrong :: ·) (history_append_cons waiting .measure [] wrong.after)
  have gentle : ∀ op ∈ waiting, op.isReset = false := by decide
  exact withheld_after_mismatch run (by decide +kernel) (by decide +kernel)
    (fun step member => Step.vain_of_gentle (gentle step.operation (operation_mem member)))
    (by decide +kernel)

end InertialSensor.Driver
