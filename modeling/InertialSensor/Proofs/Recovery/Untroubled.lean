import InertialSensor.Proofs.Driver.Switches
import InertialSensor.Proofs.Recovery.BringUp
import InertialSensor.Proofs.Recovery.Convergence

/-!
# No false alarm

Once it was brought up over a dependable sensor, and as long as nothing but the driver writes to the
registers, the driver is `Untroubled`: all registers are right and no recovery is in progress. No
request and no sample changes that. So no register is ever found wrong, no data withheld, and the
chip is reset on request only (`no_false_alarm`).
-/

namespace InertialSensor.Driver

open Simulation Routine

variable {d d' : Driver (FaultPlan Sensor)}

/-! ### Untroubled states -/

/-- The sensor is dependable, its registers are right, and no recovery is in progress. -/
structure Untroubled (d : Driver (FaultPlan Sensor)) : Prop where
  dependable : Dependable d
  configured : Configured d
  trusted : d.watch.settling = 0
  free : d.watch.holdUntil = 0
  awake : d.watch.wakePending = false

/-- Without a command to reset, the sensor is not reset. -/
lemma Quiet.resetCounts (quiet : Quiet False d d') :
    d'.bus.inner.resetCounts = d.bus.inner.resetCounts := by
  refine quiet.keeps (I := fun d' => d'.bus.inner.resetCounts = d.bus.inner.resetCounts) ?_ rfl
  intro d₁ d₂ touch same
  refine Eq.trans ?_ same
  cases touch with
  | aside aside => rw [aside.bus]
  | read address speed buffer => exact FaultPlan.resetCounts_read address speed buffer d₁.bus
  | refused failed => exact FaultPlan.resetCounts_of_error failed
  | written setting => exact FaultPlan.resetCounts_of_setting setting d₁.bus
  | reset impossible => exact impossible.elim

/-- A change to an untroubled state in which no register is found wrong and the sensor is not
reset. -/
structure Smooth (d d' : Driver (FaultPlan Sensor)) : Prop where
  untroubled : Untroubled d'
  found : d'.stats.badRegisters = d.stats.badRegisters
  unreset : d'.bus.inner.resetCounts = d.bus.inner.resetCounts

lemma Smooth.trans {d'' : Driver (FaultPlan Sensor)} (h : Smooth d d') (h' : Smooth d' d'') :
    Smooth d d'' where
  untroubled := h'.untroubled
  found := h'.found.trans h.found
  unreset := h'.unreset.trans h.unreset

lemma Quiet.smooth (quiet : Quiet False d d') (h : Untroubled d) : Smooth d d' := by
  have watch := quiet.idle.watch
  refine ⟨⟨FaultPlan.dependable_invariant.invariant.quiet quiet h.dependable,
    fun i => quiet.steady.right i (h.configured i), ?_, ?_, ?_⟩, ?_, quiet.resetCounts⟩
  · rw [watch]
    exact h.trusted
  · rw [watch]
    exact h.free
  · rw [watch]
    exact h.awake
  · rw [quiet.idle.stats]

/-! ### Cycles -/

lemma smooth_countedCycle (h : Untroubled d) : Smooth d d.countedCycle :=
  ⟨⟨h.dependable, fun i => (steady_countedCycle d).right i (h.configured i), h.trusted, h.free,
    h.awake⟩, rfl, rfl⟩

lemma Fetching.smooth {block : Vector UInt8 blockSize} (fetched : Fetching d (.ok block) d')
    (h : Untroubled d) : Smooth d d' := by
  have right (i : Fin 8) : Right i d' := fetched.steady.right i (h.configured i)
  cases fetched with
  | fetched =>
    exact ⟨⟨FaultPlan.dependable_invariant.read _ _ _ h.dependable, right, h.trusted, h.free,
      h.awake⟩, rfl, FaultPlan.resetCounts_read ..⟩

/-- The register at the cursor is found right. -/
lemma Verification.smooth (verified : Verification d d') (h : Untroubled d) : Smooth d d' := by
  have reliable : d.bus.Reliable := h.dependable.toReliable
  rw [verified.eq_of_right reliable.answering (h.configured _)]
  refine ⟨⟨FaultPlan.dependable_invariant.read _ _ _ h.dependable, fun i => ?_, h.trusted,
    h.free, h.awake⟩, rfl, FaultPlan.resetCounts_read ..⟩
  exact (h.configured i).undisturbed (FaultPlan.read_undisturbed ..) rfl

/-- No data is withheld. -/
lemma Digestion.smooth {block : Vector UInt8 blockSize} {outcome : Except Failure Cycle}
    (digested : Digestion block d outcome d') (h : Untroubled d) :
    Smooth d d' ∧ outcome ≠ .ok .skipped ∧ outcome ≠ .ok .settling := by
  have right (i : Fin 8) : Right i d' := digested.steady.right i (h.configured i)
  cases digested with
  | repeated | empty | accepted =>
    exact ⟨⟨⟨h.dependable, right, h.trusted, h.free, h.awake⟩, rfl, rfl⟩, nofun, nofun⟩
  | withheld guard recovering => exact absurd h.trusted recovering

lemma Course.smooth {outcome : Except Failure Cycle} (course : Course d outcome d')
    (h : Untroubled d) (idle : d.inFactoryTest = false) :
    Smooth d d' ∧ outcome ≠ .ok .skipped ∧ outcome ≠ .ok .settling := by
  cases course with
  | skipped suspended =>
    rw [not_suspended_of_free h.free idle] at suspended
    cases suspended
  | asleep _ restored => cases restored.eq_ok h.dependable.toReliable
  | @lost _ d₁ _ _ restored fetched =>
    have reliable : d₁.bus.Reliable :=
      FaultPlan.reliable_invariant.invariant.restoration restored h.dependable.toReliable
    obtain ⟨block, impossible⟩ := fetched.eq_ok reliable
    cases impossible
  | @digested _ _ d₁ d₂ d₃ _ _ restored fetched verified digested =>
    cases restored with
    | done due =>
      rw [h.awake] at due
      cases due
    | notDue =>
      have counted := smooth_countedCycle h
      have fetched := counted.trans (fetched.smooth counted.untroubled)
      have verified : Smooth d d₃ := by
        split at verified
        · exact fetched.trans (verified.smooth fetched.untroubled)
        · exact verified ▸ fetched
      obtain ⟨digested, outcome⟩ := digested.smooth verified.untroubled
      exact ⟨verified.trans digested, outcome⟩

/-! ### Resets on request -/

/-- Over a dependable sensor, a reset on request ends in an untroubled state. -/
lemma untroubled_of_reset (h : Dependable d) :
    Untroubled (reset d).2 ∧ (reset d).2.stats.badRegisters = d.stats.badRegisters := by
  have took := reset_of_dependable h
  have configured := configured_of_reset took
  rcases reset_cases d with ⟨cause, failed, -⟩ | ⟨-, between, quiet, after⟩
  · cases took.symm.trans failed
  · have dependable : between.bus.Dependable :=
      FaultPlan.dependable_invariant.invariant.quiet quiet h
    have found : between.stats.badRegisters = d.stats.badRegisters := by rw [quiet.idle.stats]
    rw [after] at configured ⊢
    exact ⟨⟨dependable, configured, rfl, rfl, rfl⟩, found⟩

/-- A bring-up goes as far as finding out that it cannot tell the chip, or is a reset. -/
lemma initialise_cases (d : Driver (FaultPlan Sensor)) (h : Dependable d) :
    (initialise d).1.isOk = false ∧ Quiet False d (initialise d).2 ∨
      Untroubled (initialise d).2 ∧
        (initialise d).2.stats.badRegisters = d.stats.badRegisters := by
  have probed : Quiet False d (probe d).2 := probe_quietly d
  rw [initialise, bind_apply]
  generalize probe d = r at probed ⊢
  obtain ⟨cause | ⟨⟩, d₁⟩ := r
  · exact .inl ⟨rfl, probed⟩
  · have dependable : Dependable d₁ := FaultPlan.dependable_invariant.invariant.quiet probed h
    have took := reset_of_dependable dependable
    obtain ⟨untroubled, found⟩ := untroubled_of_reset dependable
    simp only
    rw [bind_apply]
    generalize reset d₁ = r at took untroubled found ⊢
    obtain ⟨_, d₂⟩ := r
    cases took
    have goes_on {d' : Driver (FaultPlan Sensor)} (noted : Quiet False d₂ d') : Untroubled d' ∧
        d'.stats.badRegisters = d.stats.badRegisters := by
      have smooth := noted.smooth untroubled
      refine ⟨smooth.untroubled, smooth.found.trans (found.trans ?_)⟩
      rw [probed.idle.stats]
    exact .inr (goes_on (Quietly.bind .look (fun _ => .note _) d₂))

/-! ### One request -/

lemma Step.smooth {s : Step (FaultPlan Sensor)} (h : Untroubled s.before)
    (idle : s.before.inFactoryTest = false) (gentle : s.operation.isReset = false) :
    Smooth s.before s.after := by
  cases Progress.of_step s with
  | quiet _ _ quiet =>
    rw [gentle] at quiet
    exact (quiet.mono Bool.false_ne_true).smooth h
  | reset _ took => simp [Step.resets, gentle] at took
  | cycle within _ first last =>
    obtain ⟨streams, before⟩ := s.before_of_passage? within
    have first := first.smooth h
    have course := (Course.of_measure _).smooth first.untroubled (before ▸ idle)
    exact (first.trans course.1).trans (last.smooth course.1.untroubled)

/-- No request makes trouble, be it for a reset. -/
lemma Untroubled.perform (h : Untroubled d) (idle : d.inFactoryTest = false) (op : Operation) :
    Untroubled (perform op d).2 ∧
      (Driver.perform op d).2.stats.badRegisters = d.stats.badRegisters := by
  cases reset : op.isReset with
  | false =>
    have smooth : Smooth d (Driver.perform op d).2 := Step.smooth (s := ⟨op, d⟩) h idle reset
    exact ⟨smooth.untroubled, smooth.found⟩
  | true =>
    cases op with
    | initialise =>
      rw [Driver.perform, (answered ..).1]
      rcases initialise_cases d h.dependable with ⟨-, quiet⟩ | done
      · exact ⟨(quiet.smooth h).untroubled, (quiet.smooth h).found⟩
      · exact done
    | reset =>
      rw [Driver.perform, (answered ..).1]
      exact untroubled_of_reset h.dependable
    | _ => cases reset

/-- No cycle is skipped, and none withholds data. -/
lemma Untroubled.passage {op : Operation} {p : Passage (FaultPlan Sensor)} (h : Untroubled d)
    (idle : d.inFactoryTest = false) (within : op.passage? d = some p) :
    p.outcome ≠ .ok .skipped ∧ p.outcome ≠ .ok .settling := by
  cases Progress.of_step ⟨op, d⟩ with
  | quiet without => cases without.symm.trans within
  | reset without => cases without.symm.trans within
  | cycle within' _ first =>
    cases within'.symm.trans within
    obtain ⟨streams, before⟩ := op.before_of_passage? within
    exact ((Course.of_measure _).smooth (first.smooth h).untroubled (before ▸ idle)).2

/-! ### Runs -/

/-- What happens in a run: the driver is asked for something, or the samples are changed that the
sensor is going to serve. -/
inductive Happening where
  | asked (op : Operation)
  /-- From now on, blocks of zeros are served first, and a script after them. -/
  | served (zeros : Nat) (script : List Sample)

/-- The state after something happened. -/
def happen : Happening → Driver (FaultPlan Sensor) → Driver (FaultPlan Sensor)
  | .asked op, d => (perform op d).2
  | .served zeros script, d =>
    d.withBus { d.bus with inner := { d.bus.inner with zeroSamples := zeros, script := script } }

/-- The state after all this happened. -/
def happenAll : List Happening → Driver (FaultPlan Sensor) → Driver (FaultPlan Sensor)
  | [], d => d
  | happening :: later, d => happenAll later (happen happening d)

lemma Untroubled.happen (h : Untroubled d) (idle : d.inFactoryTest = false)
    (happening : Happening) :
    Untroubled (happen happening d) ∧ (Driver.happen happening d).inFactoryTest = false ∧
      (Driver.happen happening d).stats.badRegisters = d.stats.badRegisters := by
  cases happening with
  | asked op =>
    obtain ⟨untroubled, found⟩ := h.perform idle op
    exact ⟨untroubled, perform_inFactoryTest op d idle, found⟩
  | served zeros script =>
    refine ⟨⟨⟨⟨?_, ?_, ?_⟩, ?_⟩, h.configured, h.trusted, h.free, h.awake⟩, idle, rfl⟩
    · exact h.dependable.plan
    · exact h.dependable.answers
    · exact h.dependable.whole
    · exact h.dependable.unstuck

lemma Untroubled.happenAll (h : Untroubled d) (idle : d.inFactoryTest = false)
    (happenings : List Happening) :
    Untroubled (happenAll happenings d) ∧ (Driver.happenAll happenings d).inFactoryTest = false ∧
      (Driver.happenAll happenings d).stats.badRegisters = d.stats.badRegisters := by
  induction happenings generalizing d with
  | nil => exact ⟨h, idle, rfl⟩
  | cons happening later ih =>
    obtain ⟨next, idle, found⟩ := h.happen idle happening
    obtain ⟨last, idle, found'⟩ := ih next idle
    exact ⟨last, idle, found'.trans found⟩

/-- No false alarm: after a successful bring-up over a dependable sensor, and whatever the driver is
asked for and whatever samples there are, all registers are right, no register was found wrong, and
no recovery is in progress. Nor does the next request find a register wrong; its cycle is not
skipped and withholds nothing, and unless a reset was asked for, the sensor is not reset. -/
theorem no_false_alarm (dependable : Dependable d) (idle : d.inFactoryTest = false)
    (success : (perform .initialise d).1.isOk = true) (happenings : List Happening) :
    let d' := happenAll happenings (perform .initialise d).2
    Configured d' ∧ d'.stats.badRegisters = d.stats.badRegisters ∧ d'.watch.settling = 0 ∧
      d'.watch.holdUntil = 0 ∧ d'.watch.wakePending = false ∧
      ∀ op, (perform op d').2.stats.badRegisters = d.stats.badRegisters ∧
        (op.isReset = false → (perform op d').2.bus.inner.resets = d'.bus.inner.resets) ∧
        ∀ p, op.passage? d' = some p → p.outcome ≠ .ok .skipped ∧ p.outcome ≠ .ok .settling := by
  intro d'
  have start : Untroubled (perform .initialise d).2 ∧
      (perform .initialise d).2.stats.badRegisters = d.stats.badRegisters := by
    rw [perform, (answered ..).2] at success
    rw [perform, (answered ..).1]
    rcases initialise_cases d dependable with ⟨failed, -⟩ | done
    · cases success.symm.trans failed
    · exact done
  obtain ⟨untroubled, idle, found⟩ :=
    start.1.happenAll (perform_inFactoryTest .initialise d idle) happenings
  have found := found.trans start.2
  refine ⟨untroubled.configured, found, untroubled.trusted, untroubled.free, untroubled.awake,
    fun op => ⟨(untroubled.perform idle op).2.trans found, fun gentle => ?_,
      fun p => untroubled.passage idle⟩⟩
  exact congrArg Prod.fst (Step.smooth (s := ⟨op, d'⟩) untroubled idle gentle).unreset

/-- A run over a sensor that was never configured before: cycles before and after a reset, with a
block of zeros and a sample that saturates. -/
theorem no_false_alarm_over_new_sensor :
    let happenings : List Happening :=
      [.asked .measure, .served 1 [⟨.replicate 32767, 0, .replicate (-32768)⟩], .asked .measure,
        .asked .reset, .asked .measure]
    let d' := happenAll happenings
      (perform .initialise (.new (⟨.new .internal, []⟩ : FaultPlan Sensor) .start {})).2
    Configured d' ∧ d'.stats.badRegisters = 0 := by
  intro happenings
  have dependable : Dependable (.new (⟨.new .internal, []⟩ : FaultPlan Sensor) .start {}) :=
    ⟨⟨rfl, rfl, rfl⟩, rfl⟩
  have success : (perform .initialise
      (.new (⟨.new .internal, []⟩ : FaultPlan Sensor) .start {})).1.isOk = true := by
    decide +kernel
  obtain ⟨configured, found, -⟩ := no_false_alarm dependable rfl success happenings
  exact ⟨configured, found⟩

end InertialSensor.Driver
