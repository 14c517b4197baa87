import InertialSensor.Proofs.Driver.Reports
import InertialSensor.Simulation.Sensor

/-!
# Streams as folds over a run

The filtered values, the integrated changes and the published reports of a run are folds over its
reports, whatever else is asked of the driver and whatever the bus does. Of every step it is said
what it does to one stream (`Handling`): nothing, a new design of the filters, or one report, which
goes through each filter and the window once.
-/

namespace InertialSensor.Driver

open Routine

variable {σ : Type}

/-! ### Designs -/

/-- The design of a filter. -/
structure Design where
  rate : Float32
  cutoff : Float32

variable [Transport σ]

/-- The design that a step gives to the filters of a stream, if it designs them anew. -/
def Step.redesign? (c : Channel) (s : Step σ) : Option Design :=
  match s.operation with
  | .setPollInterval us =>
    if us = 0 then none else some ⟨1e6 / us.toFloat32, (s.before.streams.get c).cutoff⟩
  | .setLowPass c' hz => if c' = c ∧ s.answer.isOk then some ⟨s.before.filterRate, hz⟩ else none
  | _ => none

lemma streams_setPollInterval (us : UInt64) (d : Driver σ) :
    (setPollInterval us d).2.streams =
      if us = 0 then d.streams
      else d.streams.map fun s => s.redesign (1e6 / us.toFloat32) s.cutoff := by
  split
  · next onDemand =>
    rw [onDemand]
    rfl
  · next periodic =>
    rw [setPollInterval_of_periodic periodic]
    exact (programOnChipFilter_leaves (σ := σ) _).comp Processing.streams _

/-- The filters of one stream are designed anew, if the chip took its setting over. -/
lemma streams_setLowPass (c : Channel) (hz : Float32) (d : Driver σ) :
    (setLowPass c hz d).2.streams =
      if (setLowPass c hz d).1.isOk then d.streams.modify c (·.redesign d.filterRate hz)
      else d.streams := by
  unfold setLowPass
  split
  · rfl
  · rw [bind_apply]
    have programmed := program_cases Register.filterConfig
      (OnChipFilter.forCutoff (wholeHertz hz)).registerValue
      (fun d : Driver σ => { d with
        inForce.onChipFilter := .forCutoff (wholeHertz hz)
        config.onChipCutoff := wholeHertz hz }) d
    rcases programmed with ⟨text, failed⟩ | done
    · rw [programOnChipFilter, failed]
      rfl
    · rw [programOnChipFilter, done]
      rfl

/-! ### What a step does to a stream -/

/-- The ways in which a step can handle a stream. -/
inductive Handling (c : Channel) (s : Step σ) : Prop where
  | idle (unreported : s.report? c = none) (undesigned : s.redesign? c = none)
      (filters : s.after.setup.filters.get c = s.before.setup.filters.get c)
      (window : s.after.setup.windows.get c = s.before.setup.windows.get c)
  | redesigned {design : Design} (unreported : s.report? c = none)
      (designed : s.redesign? c = some design)
      (filters : s.after.setup.filters.get c =
        (s.before.setup.filters.get c).map (.redesign design.rate design.cutoff))
      (window : s.after.setup.windows.get c = s.before.setup.windows.get c)
  | reported {r : Report} (report : s.report? c = some r) (undesigned : s.redesign? c = none)
      (filtered : r.filtered =
        (s.before.setup.filters.get c).zipWith (fun f x => (f.apply x).1) r.calibrated)
      (filters : s.after.setup.filters.get c =
        (s.before.setup.filters.get c).zipWith (fun f x => (f.apply x).2) r.calibrated)
      (change : (r.change, r.duration) =
        reported ((s.before.setup.windows.get c).put r.time r.calibrated).1)
      (closed : s.closed c = ((s.before.setup.windows.get c).put r.time r.calibrated).1.isSome)
      (window : s.after.setup.windows.get c =
        ((s.before.setup.windows.get c).put r.time r.calibrated).2)

namespace Handling

variable {c : Channel} {s : Step σ}

/-- Steps with a cycle design no filter anew. -/
lemma undesigned_of_passage {p : Passage σ} (within : s.passage? = some p) :
    s.redesign? c = none := by
  obtain ⟨op, d⟩ := s
  cases op with
  | measure | read | selfTest => rfl
  | _ => cases within

lemma of_passage {p : Passage σ} (within : s.passage? = some p) : Handling c s := by
  have undesigned : s.redesign? c = none := undesigned_of_passage within
  obtain ⟨before, after⟩ := Step.setup_around within
  have report : s.report? c = p.report? c := by simp [Step.report?, within]
  cases samples : p.samples with
  | false =>
    have same := (p.interior_of_unsampled samples).setup
    have kept : s.after.setup = s.before.setup := after.trans (same.trans before)
    refine .idle ?_ undesigned (by rw [kept]) (by rw [kept])
    rw [report, Passage.report?_of_unsampled c samples]
  | true =>
    obtain ⟨d, sample, same, outcome, accepted⟩ := p.exists_sample samples
    have start : d.setup = s.before.setup := same.setup.trans before
    have stream : (d.accept sample).2.streams.get c = (d.making c sample).2.2 :=
      stream_accept c sample d
    have filters : s.after.setup.filters.get c = (d.making c sample).2.2.filters := by
      rw [after, accepted, ← stream, filters_setup]
    have window : s.after.setup.windows.get c = (d.making c sample).2.2.window := by
      rw [after, accepted, ← stream, windows_setup]
    have closed : s.closed c = (d.making c sample).2.1 := by
      simp [Step.closed, within, Passage.closed_of_accept outcome]
    rw [Passage.report?_of_accept outcome accepted] at report
    rw [filters_making, start] at filters
    rw [window_making, start] at window
    rw [closed_making, start] at closed
    exact .reported report undesigned (start ▸ filtered_making c sample d) filters
      (start ▸ change_making c sample d) closed window

/-- Without a cycle, a step that leaves the filters and the window alone is idle. -/
lemma of_setup (without : s.passage? = none) (undesigned : s.redesign? c = none)
    (filters : (s.after.streams.get c).filters = (s.before.streams.get c).filters)
    (window : (s.after.streams.get c).window = (s.before.streams.get c).window) :
    Handling c s := by
  have unreported : s.report? c = none := by simp [Step.report?, without]
  exact .idle unreported undesigned (by simp [filters]) (by simp [window])

lemma of_streams (without : s.passage? = none) (undesigned : s.redesign? c = none)
    (same : s.after.streams = s.before.streams) : Handling c s :=
  of_setup without undesigned (by rw [same]) (by rw [same])

lemma of_plain (without : s.passage? = none) (undesigned : s.redesign? c = none)
    (plain : s.operation.adjusts = false) : Handling c s := by
  have same := Step.setup_of_plain without plain
  have unreported : s.report? c = none := by simp [Step.report?, without]
  exact .idle unreported undesigned (by rw [same]) (by rw [same])

lemma of_setPollInterval (c : Channel) (us : UInt64) (d : Driver σ) :
    Handling c ⟨.setPollInterval us, d⟩ := by
  have streams : (perform (.setPollInterval us) d).2.streams = (setPollInterval us d).2.streams :=
    congrArg (·.streams) (answered (setPollInterval us) (fun _ => .done) d).1
  rw [streams_setPollInterval] at streams
  by_cases onDemand : us = 0
  · rw [if_pos onDemand] at streams
    exact of_streams rfl (if_pos onDemand) streams
  · rw [if_neg onDemand] at streams
    refine .redesigned rfl (if_neg onDemand) ?_ ?_
    · simp [Step.after, streams, Stream.redesign]
    · simp [Step.after, streams, Stream.redesign]

lemma of_setLowPass (c c' : Channel) (hz : Float32) (d : Driver σ) :
    Handling c ⟨.setLowPass c' hz, d⟩ := by
  obtain ⟨state, answer⟩ : (perform (.setLowPass c' hz) d).2 = (setLowPass c' hz d).2 ∧
      (perform (.setLowPass c' hz) d).1.isOk = (setLowPass c' hz d).1.isOk := answered ..
  have streams := streams_setLowPass c' hz d
  rw [← state, ← answer] at streams
  cases taken : (perform (.setLowPass c' hz) d).1.isOk with
  | false =>
    rw [taken, if_neg Bool.false_ne_true] at streams
    have undesigned : Step.redesign? c (⟨.setLowPass c' hz, d⟩ : Step σ) = none :=
      if_neg fun both => Bool.false_ne_true (taken.symm.trans both.2)
    exact of_streams rfl undesigned streams
  | true =>
    rw [taken, if_pos rfl] at streams
    by_cases same : c' = c
    · subst same
      refine .redesigned rfl (if_pos ⟨rfl, taken⟩) ?_ ?_
      · simp [Step.after, streams, Stream.redesign]
      · simp [Step.after, streams, Stream.redesign]
    · have other := PerChannel.get_modify_of_ne d.streams (·.redesign d.filterRate hz) (Ne.symm same)
      refine of_setup rfl (if_neg fun both => same both.1) ?_ ?_
      · simp only [Step.after, streams, other]
      · simp only [Step.after, streams, other]

/-- A step handles a stream in one of these ways. -/
lemma of_step (c : Channel) (s : Step σ) : Handling c s := by
  cases within : s.passage? with
  | some p => exact of_passage within
  | none =>
    obtain ⟨op, d⟩ := s
    have left {α : Type} {x : Routine σ α} {f : α → Answer} (hx : Leaves processing x) :
        ((do pure (f (← x)) : Routine σ Answer) d).2.streams = d.streams := by
      rw [(answered x f d).1]
      exact congrArg Processing.streams (hx d)
    cases op with
    | initialise => exact of_streams rfl rfl (left initialise_leaves)
    | reset => exact of_streams rfl rfl (left reset_leaves)
    | setPollInterval us => exact of_setPollInterval c us d
    | setLowPass c' hz => exact of_setLowPass c c' hz d
    | setSampleRate hz =>
      exact of_streams rfl rfl
        (left (.bind (programRate_leaves hz) fun _ => .update fun _ => rfl))
    | setFullScale g => exact of_streams rfl rfl (left (programFullScale_leaves g))
    | _ => exact of_plain within rfl rfl

end Handling

/-! ### Runs -/

lemma reports_cons_of_none {c : Channel} {s : Step σ} (unreported : s.report? c = none)
    (steps : List (Step σ)) : reports c (s :: steps) = reports c steps := by
  simp [reports, unreported]

lemma reports_cons_of_some {c : Channel} {s : Step σ} {r : Report} (report : s.report? c = some r)
    (steps : List (Step σ)) : reports c (s :: steps) = r :: reports c steps := by
  simp [reports, report]

/-- As long as the filters of a stream are not designed anew, the filtered values are the answers of
one filter to the calibrated ones. -/
lemma filtered_eq_run {c : Channel} {a : Axis} {segment later : List (Step σ)}
    {ops : List Operation} {d : Driver σ} {f : LowPass} (run : history ops d = segment ++ later)
    (alike : LowPass.Alike ((d.setup.filters.get c).get a) f)
    (undesigned : ∀ s ∈ segment, s.redesign? c = none) :
    (reports c segment).map (·.filtered.get a) =
      (f.run ((reports c segment).map (·.calibrated.get a))).1 := by
  induction segment generalizing ops d f with
  | nil => simp [reports]
  | cons s segment ih =>
    obtain ⟨rfl, ops', rest⟩ := history_eq_cons run
    have undesigned' : ∀ s' ∈ segment, s'.redesign? c = none :=
      fun s' member => undesigned s' (List.mem_cons_of_mem s member)
    cases Handling.of_step c s with
    | idle unreported _ filters =>
      rw [reports_cons_of_none unreported]
      exact ih rest.symm (filters ▸ alike) undesigned'
    | redesigned _ designed =>
      cases (undesigned s List.mem_cons_self).symm.trans designed
    | @reported r report _ filtered filters =>
      obtain ⟨answer, alike'⟩ := alike.apply (r.calibrated.get a)
      have next := ih rest.symm (f := (f.apply (r.calibrated.get a)).2)
        (by rw [filters, Axes.get_zipWith]; exact alike') undesigned'
      rw [reports_cons_of_some report, List.map_cons, List.map_cons, LowPass.run_cons, next,
        filtered, Axes.get_zipWith, answer]

/-- What the reports of a stream tell about windows is what one window makes of them. -/
lemma changes_eq_run (c : Channel) (ops : List Operation) (d : Driver σ) :
    let deltas := ((d.setup.windows.get c).run
      ((reports c (history ops d)).map fun r => (r.time, r.calibrated))).1
    (reports c (history ops d)).map (fun r => (r.change, r.duration)) = deltas.map reported ∧
      ((history ops d).filter Step.samples).map (Step.closed c) = deltas.map Option.isSome := by
  induction ops generalizing d with
  | nil => simp [history, reports]
  | cons op ops ih =>
    have next := ih (perform op d).2
    rw [history]
    have unsampled (h : (⟨op, d⟩ : Step σ).report? c = none) :
        (⟨op, d⟩ : Step σ).samples = false := by rw [← Step.isSome_report? c, h]; rfl
    cases Handling.of_step c ⟨op, d⟩ with
    | idle unreported _ _ window =>
      rw [reports_cons_of_none unreported, List.filter_cons_of_neg (by simp [unsampled unreported])]
      exact window ▸ next
    | redesigned unreported _ _ window =>
      rw [reports_cons_of_none unreported, List.filter_cons_of_neg (by simp [unsampled unreported])]
      exact window ▸ next
    | @reported r report _ _ _ change closed window =>
      have samples : (⟨op, d⟩ : Step σ).samples = true := by
        rw [← Step.isSome_report? c, report]
        rfl
      have after : (perform op d).2.setup.windows.get c =
        ((d.setup.windows.get c).put r.time r.calibrated).2 := window
      rw [after] at next
      obtain ⟨changes, closings⟩ := next
      rw [reports_cons_of_some report, List.filter_cons_of_pos samples]
      simp only [List.map_cons, DeltaWindow.run_cons]
      exact ⟨congrArg₂ List.cons change changes, congrArg₂ List.cons closed closings⟩

/-- A run publishes what its steps publish. -/
lemma published_performAll (ops : List Operation) (d : Driver σ) :
    (performAll ops d).2.published.toList =
      d.published.toList ++ (history ops d).flatMap Step.publications := by
  induction ops generalizing d with
  | nil => simp [performAll, history]
  | cons op ops ih =>
    have first := Step.published_after (⟨op, d⟩ : Step σ)
    have rest := ih (perform op d).2
    rw [performAll, history, List.flatMap_cons, ← List.append_assoc, ← first]
    exact rest

/-- After these steps of a run, the filters of a stream have just been given a design: by the last
step, or at first. -/
inductive JustDesigned (config : Configuration) (c : Channel) :
    List (Step σ) → Design → Prop where
  | atFirst :
      JustDesigned config c [] ⟨Binary32.ofNat defaultPollRate, config.cutoffs.get c⟩
  | byStep {steps : List (Step σ)} {s : Step σ} {design : Design}
      (designed : s.redesign? c = some design) : JustDesigned config c (steps ++ [s]) design

/-- The filters of a stream that have just been given a design are alike to fresh ones of that
design, and what comes then is a run. -/
lemma JustDesigned.alike {bus : σ} {clock : Clock} {config : Configuration} {c : Channel}
    {ops : List Operation} {earlier later : List (Step σ)} {design : Design}
    (h : JustDesigned config c earlier design)
    (run : history ops (.new bus clock config) = earlier ++ later) :
    ∃ ops' d, later = history ops' d ∧
      ∀ a, LowPass.Alike ((d.setup.filters.get c).get a) (.design design.rate design.cutoff) := by
  cases h with
  | atFirst =>
    refine ⟨ops, _, run.symm, fun a => ?_⟩
    rw [filters_setup, filters_new, Axes.get_replicate]
    exact .refl _
  | @byStep steps s _ designed =>
    rw [List.append_assoc] at run
    obtain ⟨ops', rest⟩ := history_after run
    refine ⟨ops', s.after, rest, fun a => ?_⟩
    cases Handling.of_step c s with
    | idle _ undesigned => cases undesigned.symm.trans designed
    | redesigned _ designed' filters =>
      cases designed'.symm.trans designed
      rw [filters, Axes.get_map]
      exact LowPass.redesign_alike_design ..
    | reported _ undesigned => cases undesigned.symm.trans designed

/-- The reports of a run, whatever is asked of the driver and whatever the bus does. Each cycle that
samples puts one report into each backlog. From one design of a stream's filters to the next, the
filtered values are on each axis the answers of one filter of that design to the calibrated values.
The changes that the reports of a stream carry are those of one window that was given the time and
the calibrated value of every report, and a window is said to have closed exactly in these cycles.
Published are, in order, the reports whose window closed while publication was not blocked. Steps
that do not sample leave the windows alone, and unless they design the filters of a stream anew,
these too. -/
theorem streams_eq_folds (bus : σ) (clock : Clock) (config : Configuration)
    (ops : List Operation) :
    let start := Driver.new bus clock config
    let steps := history ops start
    (∀ s ∈ steps, ∀ p, s.passage? = some p → p.samples = true → ∀ c, ∃ r,
        s.report? c = some r ∧
          (p.after.streams.get c).backlog = (p.before.streams.get c).backlog.push r) ∧
      (∀ c a earlier segment later design, steps = earlier ++ (segment ++ later) →
        JustDesigned config c earlier design → (∀ s ∈ segment, s.redesign? c = none) →
          (reports c segment).map (·.filtered.get a) =
            ((LowPass.design design.rate design.cutoff).run
              ((reports c segment).map (·.calibrated.get a))).1) ∧
      (∀ c,
        let window : DeltaWindow :=
          { interval := config.windowInterval, coning := decide (c = .gyro) }
        let deltas := (window.run ((reports c steps).map fun r => (r.time, r.calibrated))).1
        (reports c steps).map (fun r => (r.change, r.duration)) = deltas.map reported ∧
          (steps.filter Step.samples).map (Step.closed c) = deltas.map Option.isSome) ∧
      (performAll ops start).2.published.toList = steps.flatMap Step.publications ∧
      ∀ s ∈ steps, s.samples = false → ∀ c,
        (s.after.streams.get c).window = (s.before.streams.get c).window ∧
          (s.redesign? c = none →
            (s.after.streams.get c).filters = (s.before.streams.get c).filters) := by
  intro start steps
  refine ⟨fun s _ p within samples c => ?_, fun c a earlier segment later design run just kept => ?_,
    fun c => ?_, ?_, fun s _ unsampled c => ?_⟩
  · obtain ⟨r, report, pushed⟩ := p.backlog_of_samples c samples
    exact ⟨r, by simpa [Step.report?, within] using report, pushed⟩
  · obtain ⟨ops', d, rest, alike⟩ := just.alike run
    exact filtered_eq_run rest.symm (alike a) kept
  · have changes := changes_eq_run c ops start
    rw [windows_setup] at changes
    cases c with
    | accel => exact changes
    | gyro => exact changes
  · rw [published_performAll]
    rfl
  · rw [← Step.isSome_report? c] at unsampled
    rw [← filters_setup, ← filters_setup, ← windows_setup, ← windows_setup]
    cases Handling.of_step c s with
    | idle _ _ filters window => exact ⟨window, fun _ => filters⟩
    | redesigned _ designed _ window => exact ⟨window, fun kept => by cases kept.symm.trans designed⟩
    | reported report => simp [report] at unsampled

/-- Three cycles after the polling interval was set, the last one four milliseconds later: their
reports go through filters designed for it, and the last of them carries the change over the windows
that close then, both of which are published. -/
theorem filtered_at_new_interval :
    let brought := (perform .initialise (.new (Simulation.Sensor.new .internal) .start {})).2
    let polled := (perform (.setPollInterval 1000) brought).2
    let cycles := [.measure, .measure, .wait 4000, .measure]
    let ops := .initialise :: .setPollInterval 1000 :: cycles
    let steps := history ops (.new (Simulation.Sensor.new .internal) .start {})
    let segment := history cycles polled
    let design := LowPass.design (1e6 / (1000 : UInt64).toFloat32) brought.streams.gyro.cutoff
    let window : DeltaWindow := { interval := 3571, coning := true }
    let deltas := (window.run ((reports .gyro steps).map fun r => (r.time, r.calibrated))).1
    (reports .gyro segment).length = 3 ∧
      (reports .gyro segment).map (·.filtered.get .x) =
        (design.run ((reports .gyro segment).map (·.calibrated.get .x))).1 ∧
      (reports .gyro steps).map (fun r => (r.change, r.duration)) = deltas.map reported ∧
      deltas.map Option.isSome = [false, false, true] ∧
      (performAll ops (.new (Simulation.Sensor.new .internal) .start {})).2.published.toList =
        steps.flatMap Step.publications ∧
      (steps.flatMap Step.publications).map (·.channel) = [.accel, .gyro] := by
  intro brought polled cycles ops steps segment design window deltas
  obtain ⟨-, filtered, windows, published, -⟩ :=
    streams_eq_folds (Simulation.Sensor.new .internal) .start {} ops
  obtain ⟨changes, closed⟩ := windows .gyro
  have run : (reports .gyro segment).length = 3 ∧
      (steps.filter Step.samples).map (Step.closed .gyro) = [false, false, true] ∧
      (steps.flatMap Step.publications).map (·.channel) = [.accel, .gyro] := by
    decide +kernel
  obtain ⟨three, last, both⟩ := run
  refine ⟨three, ?_, changes, closed.symm.trans last, published, both⟩
  have designed (d : Driver Simulation.Sensor) : Step.redesign? .gyro ⟨.setPollInterval 1000, d⟩ =
      some ⟨1e6 / (1000 : UInt64).toFloat32, d.streams.gyro.cutoff⟩ := rfl
  refine filtered .gyro .x ([⟨.initialise, .new (Simulation.Sensor.new .internal) .start {}⟩] ++
    [⟨.setPollInterval 1000, brought⟩]) segment []
    ⟨1e6 / (1000 : UInt64).toFloat32, brought.streams.gyro.cutoff⟩ ?_ (.byStep (designed brought))
    fun s member => ?_
  · rw [List.append_nil, history, history]
    rfl
  · have kept := operation_mem member
    simp only [cycles, List.mem_cons, List.not_mem_nil, or_false] at kept
    rw [Step.redesign?]
    rcases kept with op | op | op | op <;> rw [op]

end InertialSensor.Driver
