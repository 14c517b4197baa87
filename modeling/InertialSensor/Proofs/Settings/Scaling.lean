import InertialSensor.Proofs.Settings.Coherence
import InertialSensor.Simulation.Sensor

/-!
# Reports in the scale of their time

The settings agree in all places where they are kept (`settings_coherent`). So the scale that a
report of the accelerometer carries is that of the full scale which was last given to the sensor
when the report was made. A report that waits in the backlog keeps the scale it was made in, while
the setting may change.
-/

namespace InertialSensor

/-- A report carries the scale and the range of a full scale. -/
def Report.IsIn (s : FullScale) (r : Report) : Prop := r.scaling = s.scale ∧ r.range = s.range

instance (s : FullScale) (r : Report) : Decidable (r.IsIn s) := inferInstanceAs (Decidable (_ ∧ _))

/-- The full scale that was last given to the sensor. -/
def lastFullScale (writes : List (UInt8 × UInt8)) : FullScale :=
  .ofRegisterValue (lastSetting Register.accelConfig writes)

namespace Driver

variable {σ : Type} [Transport σ]

/-- All registers are known, and the shadow keeps what was last written to them. -/
structure Known (d : Driver (Recorder σ)) : Prop where
  standing : Standing 8 d.setup
  faithful : Faithful d

lemma Known.perform {d : Driver (Recorder σ)} (h : Known d) (op : Operation) :
    Known (perform op d).2 where
  standing := h.standing.perform op
  faithful := faithful_invariant.perform op h.faithful

lemma Known.performAll {d : Driver (Recorder σ)} (h : Known d) (ops : List Operation) :
    Known (performAll ops d).2 where
  standing := h.standing.performAll ops
  faithful := faithful_invariant.performAll ops h.faithful

omit [Transport σ] in
/-- The full scale in force is the one last written. -/
lemma Known.lastFullScale_eq {d : Driver (Recorder σ)} (h : Known d) :
    lastFullScale d.bus.writes = d.inForce.fullScale := by
  have written : d.watch.shadow.values.get 5 = lastSetting Register.accelConfig d.bus.writes :=
    h.faithful 5
  have standing : d.watch.shadow.values.get 5 = d.inForce.fullScale.registerValue :=
    h.standing.values 5 (by decide)
  rw [lastFullScale, ← written, standing, FullScale.ofRegisterValue_registerValue]

omit [Transport σ] in
/-- What the shadow keeps of a register is what the settings in force ask for. -/
lemma Known.expected? {d : Driver (Recorder σ)} (h : Known d) (i : Fin 8) :
    d.watch.shadow.expected? (Register.checked.get i) = some (d.inForce.registers.get i) := by
  have standing : d.watch.shadow.values.get i = d.inForce.registers.get i :=
    h.standing.values i i.isLt
  simp [standing]

/-- A cycle makes its report in the full scale that was last written. -/
lemma Known.isIn_of_report? {p : Passage (Recorder σ)} (h : Known p.before) {r : Report}
    (report : p.report? .accel = some r) : r.IsIn (lastFullScale p.after.bus.writes) := by
  have after : Known p.after :=
    ⟨h.standing.passage, faithful_invariant.course (Course.of_measure _) h.faithful⟩
  have samples : p.samples = true := by rw [← p.isSome_report? .accel, report]; rfl
  obtain ⟨d, sample, same, outcome, accepted⟩ := p.exists_sample samples
  rw [Passage.report?_of_accept outcome accepted] at report
  cases report
  have inForce : d.inForce = p.after.inForce := by
    rw [accepted, accept_eq]
  have settings : d.inForce = d.config.settings := by
    have start : d.setup = p.before.setup := same.setup
    exact (start ▸ h.standing.settings : d.setup.inForce = d.setup.config.settings)
  rw [after.lastFullScale_eq, ← inForce]
  refine ⟨?_, rfl⟩
  change d.inForce.perCount.accel = d.inForce.fullScale.scale
  rw [settings]
  rfl

lemma Known.of_initialise {bus : σ} {clock : Clock} {config : Configuration}
    {ops : List Operation} :
    let start := (Driver.performAll ops (.new (⟨bus, []⟩ : Recorder σ) clock config)).2
    (Driver.perform .initialise start).1.isOk = true →
      Known (Driver.perform .initialise start).2 := by
  intro start success
  have standing : Standing 0 start.setup := (standing_new _ clock config).performAll ops
  have faithful : Faithful start := faithful_invariant.performAll ops (faithful_new bus clock config)
  exact ⟨standing_of_initialise standing success, faithful_invariant.perform .initialise faithful⟩

/-- A report that a step makes is in the full scale that was last written up to then. -/
lemma Known.isIn_of_mem {d : Driver (Recorder σ)} (h : Known d) {ops : List Operation}
    {s : Step (Recorder σ)} (member : s ∈ history ops d) {p : Passage (Recorder σ)}
    (within : s.passage? = some p) {r : Report} (report : p.report? .accel = some r) :
    r.IsIn (lastFullScale p.after.bus.writes) := by
  have known : Known s.before := before_of_mem h (fun s known => known.perform s.operation) s member
  obtain ⟨streams, before⟩ := Step.before_of_passage? within
  have setup : p.before.setup = s.before.setup := (Step.setup_around within).1
  refine isIn_of_report? ⟨setup ▸ known.standing, ?_⟩ report
  rw [before]
  exact known.faithful.of_same rfl rfl

/-- The settings agree in all places where they are kept, whatever was done over whatever bus. In
force is what the configuration asks for, the scale that goes with the full scale included, and the
filters of each stream share their weights, whether they work, and the cutoff that the configuration
asks for. After a bring-up that succeeded the shadow keeps the register values of the settings in
force, and the full scale in force is the one last written to the sensor. From then on each report
of the accelerometer is made with scale and range of the full scale last written up to then; and
what is in its backlog was there already, or was made in one of the steps since. -/
theorem settings_coherent (bus : σ) (clock : Clock) (config : Configuration)
    (ops : List Operation) :
    let start := Driver.new (⟨bus, []⟩ : Recorder σ) clock config
    let d := (performAll ops start).2
    d.inForce = d.config.settings ∧
      (∀ c, ∃ weights enabled, ∀ a, ((d.streams.get c).filters.get a).weights = weights ∧
        ((d.streams.get c).filters.get a).enabled = enabled ∧
        ((d.streams.get c).filters.get a).cutoff = d.config.cutoffs.get c) ∧
      ∀ earlier later, ops = earlier ++ .initialise :: later →
        let asked := (performAll earlier start).2
        let begun := (perform .initialise asked).2
        (perform .initialise asked).1.isOk = true →
          d.watch.shadow.expected? Register.rateDivider = some d.inForce.rate.registerValue ∧
          d.watch.shadow.expected? Register.filterConfig =
            some d.inForce.onChipFilter.registerValue ∧
          d.watch.shadow.expected? Register.accelConfig =
            some d.inForce.fullScale.registerValue ∧
          lastFullScale d.bus.writes = d.inForce.fullScale ∧
          (∀ s ∈ history later begun, ∀ p, s.passage? = some p → ∀ r, p.report? .accel = some r →
            r.IsIn (lastFullScale p.after.bus.writes)) ∧
          ∀ r ∈ d.streams.accel.backlog.items, r ∈ begun.streams.accel.backlog.items ∨
            ∃ s ∈ history later begun, s.report? .accel = some r := by
  intro start d
  have coherent : Coherent d.setup := ((standing_new _ clock config).performAll ops).toCoherent
  refine ⟨coherent.settings, fun c => ?_, fun earlier later split => ?_⟩
  · obtain ⟨weights, enabled, same⟩ := coherent.filters c
    rw [filters_setup] at same
    exact ⟨weights, enabled, fun a => ⟨(same a).2.1, (same a).2.2, (same a).1⟩⟩
  · intro asked begun success
    have begins : Known begun := Known.of_initialise success
    have parts : d = (performAll later begun).2 := by
      rw [← performAll_append_cons, ← split]
    have ends : Known d := parts ▸ begins.performAll later
    refine ⟨ends.expected? 2, ends.expected? 3, ends.expected? 5, ends.lastFullScale_eq, ?_, ?_⟩
    · exact fun s member p within r report => begins.isIn_of_mem member within report
    · intro r queued
      rw [parts] at queued
      exact mem_backlog_performAll (c := .accel) queued

/-- A report keeps its scale in the backlog: made at eight times gravity, it is still there after
the full scale was narrowed to two. -/
theorem queued_before_narrowing :
    let start := Driver.new (⟨Simulation.Sensor.new .internal, []⟩ : Recorder _) .start {}
    let begun := (perform .initialise start).2
    let d := (performAll [.setPollInterval 1000, .measure, .setFullScale 2] begun).2
    (perform .initialise start).1.isOk = true ∧ lastFullScale d.bus.writes = .g2 ∧
      ∃ r ∈ d.streams.accel.backlog.items, r.IsIn .g8 ∧ ¬r.IsIn .g2 := by
  decide +kernel

end Driver

end InertialSensor
