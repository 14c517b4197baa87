import InertialSensor.Proofs.Signal.Conservation

/-!
# The two streams in lockstep

Each stream integrates its own signal, but the times at which its window opens, and with them all
closings and lengths of windows, depend on the times of the samples only. As both streams get the
same samples, their windows stay `Paired`, and so do the reports made of them. Reports carry the
time and the count of errors of the cycle that made them (`Step.stamp`), so neither goes down along
a stream, and what is unread is the end of what was made.
-/

namespace InertialSensor

/-! ### Windows -/

/-- Two windows are open since the same time, and close by the same rule. -/
structure DeltaWindow.Paired (w w' : DeltaWindow) : Prop where
  interval : w.interval = w'.interval
  lastTime : w.lastTime = w'.lastTime
  openedAt : w.openedAt = w'.openedAt

namespace DeltaWindow

variable {w w' : DeltaWindow}

lemma Paired.extend (paired : Paired w w') (time : UInt64) (value value' : Axes Float32) :
    Paired (w.extend time value) (w'.extend time value') := by
  rw [w.extend_eq, w'.extend_eq]
  exact ⟨paired.interval, rfl, paired.openedAt⟩

lemma Paired.isDue (paired : Paired w w') : w.isDue = w'.isDue := by
  rw [DeltaWindow.isDue, DeltaWindow.isDue, paired.interval, paired.openedAt, paired.lastTime]

/-- Paired windows that get samples of the same time close together, after the same time, and are
paired again. -/
lemma Paired.put (paired : Paired w w') (time : UInt64) (value value' : Axes Float32) :
    (w.put time value).1.map (·.duration) = (w'.put time value').1.map (·.duration) ∧
      Paired (w.put time value).2 (w'.put time value').2 := by
  simp only [DeltaWindow.put, ← paired.lastTime]
  split
  · exact ⟨rfl, paired.interval, rfl, rfl⟩
  · have extended := paired.extend time value value'
    rw [← extended.isDue]
    split
    · have durations : ((w.extend time value).total).duration =
          ((w'.extend time value').total).duration := by
        rw [total, total, extended.openedAt, extended.lastTime]
      exact ⟨congrArg some durations, extended.interval, extended.lastTime, extended.lastTime⟩
    · exact ⟨rfl, extended⟩

end DeltaWindow

/-! ### Stamps -/

/-- What the two streams' reports of one cycle have in common: the time, the count of errors, and
the length of the window that closed. -/
def Report.stamp (r : Report) : UInt64 × Nat × UInt64 := (r.time, r.errors, r.duration)

namespace Driver

open Routine

variable {σ : Type} [Transport σ]

lemma measure_clock : Leaves (·.clock) (measure (σ := σ)) := by
  intro d
  refine (Course.of_measure d).keeps (I := fun d' => d'.clock = d.clock) ?_ ?_ ?_ ?_ ?_ rfl
  · intro _ _ _ restored same
    cases restored with | notDue | failed | done => exact same
  · exact fun same => same
  · intro _ _ _ fetched same
    cases fetched with | failed | fetched => exact same
  · intro _ _ verified same
    cases verified with | unread | right | reset | repair => exact same
  · intro _ _ _ _ digested same
    cases digested with | repeated | empty | withheld | accepted => exact same

end Driver

namespace Passage

open Driver

variable {σ : Type} [Transport σ]

/-- A report carries the time of its cycle, and the errors counted up to the end of the cycle. -/
lemma stamp {c : Channel} {p : Passage σ} {r : Report} (report : p.report? c = some r) :
    r.time = p.before.now ∧ r.errors = p.after.stats.errors := by
  have samples : p.samples = true := by rw [← p.isSome_report? c, report]; rfl
  obtain ⟨d, sample, -, outcome, accepted⟩ := p.exists_sample samples
  have made : r = (d.making c sample).1 :=
    Option.some.inj (report.symm.trans (report?_of_accept outcome accepted))
  have clock : p.after.clock = p.before.clock := measure_clock p.before
  rw [accepted, accept_eq] at clock
  have stats : d.stats = p.after.stats := by rw [accepted, accept_eq]
  rw [made, ← stats, now, ← clock]
  cases c with
  | accel => exact ⟨rfl, rfl⟩
  | gyro => exact ⟨rfl, rfl⟩

end Passage

namespace Driver

open Routine

variable {σ : Type} [Transport σ]

namespace Step

/-- A report carries the time at which its step began, and the errors counted up to its end. -/
lemma stamp {c : Channel} {s : Step σ} {r : Report} (report : s.report? c = some r) :
    r.time = s.before.now ∧ r.errors = s.after.stats.errors := by
  cases Progress.of_step s with
  | quiet without => simp [report?, without] at report
  | reset without => simp [report?, without] at report
  | @cycle p within _ _ last =>
    obtain ⟨streams, before⟩ := before_of_passage? within
    have made : p.report? c = some r := by simpa [report?, within] using report
    obtain ⟨time, errors⟩ := p.stamp made
    refine ⟨?_, ?_⟩
    · rw [time, before]
      rfl
    · rw [errors, last.idle.stats]
      rfl

/-- No window closes without a report. -/
lemma closed_of_unreported {c : Channel} {s : Step σ} (unreported : s.report? c = none) :
    s.closed c = false := by
  have samples : s.samples = false := by rw [← s.isSome_report? c, unreported]; rfl
  rw [closed]
  cases within : s.passage? with
  | none => rfl
  | some p =>
    have unsampled : p.samples = false := by simpa [Step.samples, within] using samples
    exact Passage.closed_of_unsampled c unsampled

end Step

/-! ### Lockstep -/

/-- The windows of the two streams are paired, and have closed equally often. -/
structure Lockstep (d : Driver σ) : Prop where
  windows : d.streams.accel.window.Paired d.streams.gyro.window
  closed : d.streams.accel.closed = d.streams.gyro.closed

omit [Transport σ] in
lemma lockstep_new (bus : σ) (clock : Clock) (config : Configuration) :
    Lockstep (new bus clock config) := ⟨⟨rfl, rfl, rfl⟩, rfl⟩

namespace Handling

variable {c : Channel} {s : Step σ}

/-- Without a report the window is left alone. -/
lemma window_of_unreported (unreported : s.report? c = none) :
    (s.after.streams.get c).window = (s.before.streams.get c).window := by
  rw [← windows_setup, ← windows_setup]
  cases Handling.of_step c s with
  | idle _ _ _ window | redesigned _ _ _ window => exact window
  | reported report => cases unreported.symm.trans report

/-- A report goes through the window, and carries the length of the window if one closed. -/
lemma window_of_reported {r : Report} (report : s.report? c = some r) :
    let put := (s.before.streams.get c).window.put r.time r.calibrated
    r.duration = (put.1.map (·.duration)).getD 0 ∧ s.closed c = put.1.isSome ∧
      (s.after.streams.get c).window = put.2 := by
  rw [← windows_setup, ← windows_setup]
  cases Handling.of_step c s with
  | idle unreported | redesigned unreported => cases unreported.symm.trans report
  | reported report' _ _ _ change closed window =>
    cases report'.symm.trans report
    refine ⟨?_, closed, window⟩
    have duration := congrArg Prod.snd change
    generalize DeltaWindow.put _ _ _ = r at duration ⊢
    obtain ⟨_ | delta, _⟩ := r
    · exact duration
    · exact duration

end Handling

namespace Lockstep

variable {s : Step σ}

/-- In a step, a report is made on both streams or on none, and the two are stamped alike. -/
lemma step (h : Lockstep s.before) :
    (s.report? .accel).map Report.stamp = (s.report? .gyro).map Report.stamp ∧
      s.closed .accel = s.closed .gyro ∧ Lockstep s.after := by
  have together : (s.report? .accel).isSome = (s.report? .gyro).isSome := by
    rw [Step.isSome_report?, Step.isSome_report?]
  have counted (c : Channel) : (s.after.streams.get c).closed =
      (s.before.streams.get c).closed + (s.closed c).toNat := (s.transit c).closed
  have keeps (closed : s.closed .accel = s.closed .gyro)
      (windows : s.after.streams.accel.window.Paired s.after.streams.gyro.window) :
      Lockstep s.after := by
    refine ⟨windows, (counted .accel).trans (.trans ?_ (counted .gyro).symm)⟩
    rw [closed]
    exact congrArg (· + _) h.closed
  cases report : s.report? .accel with
  | none =>
    rw [report] at together
    have report' : s.report? .gyro = none := by simpa using together.symm
    have closed : s.closed .accel = s.closed .gyro := by
      rw [Step.closed_of_unreported report, Step.closed_of_unreported report']
    refine ⟨by rw [report'], closed, keeps closed ?_⟩
    have window : s.after.streams.accel.window = _ := Handling.window_of_unreported report
    have window' : s.after.streams.gyro.window = _ := Handling.window_of_unreported report'
    rw [window, window']
    exact h.windows
  | some r =>
    rw [report] at together
    obtain ⟨r', report'⟩ := Option.isSome_iff_exists.mp together.symm
    obtain ⟨time, errors⟩ := Step.stamp report
    obtain ⟨time', errors'⟩ := Step.stamp report'
    have ⟨duration, closed, window⟩ := Handling.window_of_reported report
    have ⟨duration', closed', window'⟩ := Handling.window_of_reported report'
    rw [time'.trans time.symm] at duration' closed' window'
    obtain ⟨durations, paired⟩ := h.windows.put r.time r.calibrated r'.calibrated
    have together : s.closed .accel = s.closed .gyro := by
      have closings := congrArg Option.isSome durations
      rw [Option.isSome_map, Option.isSome_map] at closings
      exact closed.trans (closings.trans closed'.symm)
    have stamps : r.stamp = r'.stamp := by
      have lengths : r.duration = r'.duration := by
        rw [duration, duration']
        exact congrArg (·.getD 0) durations
      rw [Report.stamp, Report.stamp, time, time', errors, errors', lengths]
    refine ⟨by rw [report', Option.map_some, Option.map_some, stamps], together,
      keeps together ?_⟩
    change s.after.streams.accel.window = _ at window
    change s.after.streams.gyro.window = _ at window'
    rw [window, window']
    exact paired

/-- Through a run the two streams stay in lockstep, and their reports are stamped alike, one by
one. -/
lemma run {d : Driver σ} (h : Lockstep d) (ops : List Operation) :
    (reports .accel (history ops d)).map Report.stamp =
        (reports .gyro (history ops d)).map Report.stamp ∧
      ∀ s ∈ history ops d, s.closed .accel = s.closed .gyro ∧ Lockstep s.after := by
  induction ops generalizing d with
  | nil => exact ⟨rfl, fun s member => by cases member⟩
  | cons op ops ih =>
    obtain ⟨stamps, closed, after⟩ := Lockstep.step (s := ⟨op, d⟩) h
    obtain ⟨later, kept⟩ := ih after
    have first := congrArg Option.toList stamps
    rw [Option.toList_map, Option.toList_map] at first
    rw [history, reports_cons, reports_cons, List.map_append, List.map_append, first]
    refine ⟨congrArg _ later, fun s member => ?_⟩
    rcases List.mem_cons.mp member with rfl | member
    · exact ⟨closed, after⟩
    · exact kept s member

end Lockstep

/-! ### Monotony -/

/-- If a mark of the state never goes down, and every report is stamped between the marks before and
after its step, then the stamps do not go down along a stream. -/
lemma reports_pairwise {β : Type} [Preorder β] (mark : Driver σ → β) {stamp : Report → β}
    (c : Channel) {ops : List Operation} {d : Driver σ}
    (rising : ∀ s ∈ history ops d, mark s.before ≤ mark s.after)
    (between : ∀ s ∈ history ops d, ∀ r, s.report? c = some r →
      mark s.before ≤ stamp r ∧ stamp r ≤ mark s.after) :
    (∀ r ∈ reports c (history ops d), mark d ≤ stamp r) ∧
      (reports c (history ops d)).Pairwise fun r r' => stamp r ≤ stamp r' := by
  induction ops generalizing d with
  | nil => exact ⟨nofun, .nil⟩
  | cons op ops ih =>
    have first : (⟨op, d⟩ : Step σ) ∈ history (op :: ops) d := List.mem_cons_self
    obtain ⟨bound, pairwise⟩ := ih
      (fun s member => rising s (List.mem_cons_of_mem _ member))
      (fun s member => between s (List.mem_cons_of_mem _ member))
    have up : mark d ≤ mark (perform op d).2 := rising _ first
    rw [history]
    cases report : (⟨op, d⟩ : Step σ).report? c with
    | none =>
      rw [reports_cons_of_none report]
      exact ⟨fun r member => up.trans (bound r member), pairwise⟩
    | some made =>
      obtain ⟨lower, upper⟩ := between _ first made report
      rw [reports_cons_of_some report]
      refine ⟨fun r member => ?_, .cons (fun r member => upper.trans (bound r member)) pairwise⟩
      rcases List.mem_cons.mp member with rfl | later
      · exact lower
      · exact up.trans (bound r later)

/-- The unread reports at the end of a run are the last ones made. -/
lemma unread_suffix (bus : σ) (clock : Clock) (config : Configuration) (c : Channel)
    (ops : List Operation) :
    let start := Driver.new bus clock config
    ((performAll ops start).2.streams.get c).backlog.items <:+ reports c (history ops start) := by
  intro start
  have suffix := (transit_performAll c ops start).suffix
  rw [backlog_new] at suffix
  exact suffix

/-- In every run from a new driver on, whatever is asked and whatever the bus does, the two streams
are in lockstep. With every sample accepted either both windows close or none, so both have always
closed equally often, and the reports of the two streams carry one by one the same time, count of
errors and length of window. Error counts do not go down along a stream, nor times if the clock does
not go back; nor do they among unread reports. -/
theorem streams_in_lockstep (bus : σ) (clock : Clock) (config : Configuration)
    (ops : List Operation) :
    let start := Driver.new bus clock config
    let steps := history ops start
    let final := (performAll ops start).2
    (∀ s ∈ steps, ∀ p closed, s.passage? = some p → p.outcome = .ok (.sampled closed) →
        closed.accel = closed.gyro) ∧
      (∀ s ∈ steps, s.after.streams.accel.closed = s.after.streams.gyro.closed) ∧
      (reports .accel steps).map Report.stamp = (reports .gyro steps).map Report.stamp ∧
      (∀ c, (reports c steps).Pairwise (fun r r' => r.errors ≤ r'.errors) ∧
        (final.streams.get c).backlog.items.Pairwise fun r r' => r.errors ≤ r'.errors) ∧
      ((∀ s ∈ steps, s.before.now ≤ s.after.now) → ∀ c,
        (reports c steps).Pairwise (fun r r' => r.time ≤ r'.time) ∧
          (final.streams.get c).backlog.items.Pairwise fun r r' => r.time ≤ r'.time) := by
  intro start steps final
  obtain ⟨stamps, kept⟩ := (lockstep_new bus clock config).run ops
  refine ⟨fun s member p closed within outcome => ?_, fun s member => (kept s member).2.closed,
    stamps, fun c => ?_, fun forward c => ?_⟩
  · have together := (kept s member).1
    simp only [Step.closed, within, Option.any_some, Passage.closed, outcome] at together
    exact together
  · have rising (s : Step σ) : s.before.stats.errors ≤ s.after.stats.errors :=
      Nat.add_le_add s.reckoning.rises.badTransfers s.reckoning.rises.badRegisters
    have stamped (s : Step σ) (r : Report) (report : s.report? c = some r) :
        s.before.stats.errors ≤ r.errors ∧ r.errors ≤ s.after.stats.errors := by
      rw [(Step.stamp report).2]
      exact ⟨rising s, le_rfl⟩
    have along : (reports c steps).Pairwise fun r r' => r.errors ≤ r'.errors :=
      (reports_pairwise (fun d => d.stats.errors) c (fun s _ => rising s) fun s _ => stamped s).2
    exact ⟨along, along.sublist (unread_suffix bus clock config c ops).sublist⟩
  · have rising (s) (member : s ∈ steps) : s.before.now.toNat ≤ s.after.now.toNat :=
      UInt64.le_iff_toNat_le.mp (forward s member)
    have stamped (s) (member : s ∈ steps) (r : Report) (report : s.report? c = some r) :
        s.before.now.toNat ≤ r.time.toNat ∧ r.time.toNat ≤ s.after.now.toNat := by
      rw [(Step.stamp report).1]
      exact ⟨le_rfl, rising s member⟩
    have along : (reports c steps).Pairwise fun r r' => r.time ≤ r'.time :=
      (reports_pairwise (fun d => d.now.toNat) c rising stamped).2.imp UInt64.le_iff_toNat_le.mpr
    exact ⟨along, along.sublist (unread_suffix bus clock config c ops).sublist⟩

/-- Three samples of a new sensor, two milliseconds apart: with the last one both windows close, and
both reports are published. -/
theorem lockstep_over_new_sensor :
    let ops := [.initialise, .measure, .wait 2000, .measure, .wait 2000, .measure]
    let steps := history ops (.new (Simulation.Sensor.new .internal) .start {})
    let final := (performAll ops (.new (Simulation.Sensor.new .internal) .start {})).2
    (∀ s ∈ steps, s.before.now ≤ s.after.now) ∧
      (reports .gyro steps).length = 3 ∧
      (reports .accel steps).map Report.stamp = (reports .gyro steps).map Report.stamp ∧
      (reports .gyro steps).map (·.duration) = [0, 0, 4000] ∧
      (∀ s ∈ steps, s.after.streams.accel.closed = s.after.streams.gyro.closed) ∧
      final.streams.gyro.closed = 1 ∧
      final.published.toList.map (·.channel) = [.accel, .gyro] ∧
      (reports .gyro steps).Pairwise fun r r' => r.time ≤ r'.time := by
  intro ops steps final
  have run : steps.all (fun s => decide (s.before.now ≤ s.after.now)) = true ∧
      (reports .gyro steps).length = 3 ∧ (reports .gyro steps).map (·.duration) = [0, 0, 4000] ∧
      final.streams.gyro.closed = 1 ∧
      final.published.toList.map (·.channel) = [.accel, .gyro] := by
    decide +kernel
  obtain ⟨forward, three, durations, once, both⟩ := run
  have forward (s) (member : s ∈ steps) : s.before.now ≤ s.after.now :=
    of_decide_eq_true (List.all_eq_true.mp forward s member)
  obtain ⟨-, closed, stamps, -, ordered⟩ :=
    streams_in_lockstep (Simulation.Sensor.new .internal) .start {} ops
  exact ⟨forward, three, stamps, durations, closed, once, both, (ordered forward .gyro).1⟩

end Driver

end InertialSensor
