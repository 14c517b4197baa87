import InertialSensor.Proofs.Driver.Frame
import InertialSensor.Proofs.Driver.History
import InertialSensor.Proofs.Signal.Filters

/-!
# The reports of a run

A cycle makes one report on each stream, or leaves the interior of the driver as it is, except that
it remembers the block for the next one (`Yield`). A step does nothing to filters, windows and
settings but what its cycle does, unless its operation `adjusts` them (`Step.setup_around`,
`Step.setup_of_plain`).
-/

namespace InertialSensor

/-- The raw words for a stream, in the sensor's frame. -/
def Sample.raw (s : Sample) : Channel → Axes Int16
  | .accel => s.accel
  | .gyro => s.gyro

/-- The temperature that a stream's report carries. -/
def Sample.dieTemperature? (s : Sample) : Channel → Option DieTemperature
  | .accel => some ⟨s.temperature, celsius s.temperature⟩
  | .gyro => none

namespace Driver

open Routine

variable {σ : Type}

/-- A new driver has freshly designed filters. -/
lemma filters_new (bus : σ) (clock : Clock) (config : Configuration) (c : Channel) :
    ((new bus clock config).streams.get c).filters =
      .replicate (.design (Binary32.ofNat defaultPollRate) (config.cutoffs.get c)) := by
  cases c with
  | accel => rfl
  | gyro => rfl

/-! ### Accepting a sample -/

/-- What one stream makes of a sample: a report, whether a window closed with it, and the stream
afterwards. -/
def making (c : Channel) (sample : Sample) (d : Driver σ) : Report × Bool × Stream :=
  (d.streams.get c).accept ⟨d.config.mounting, d.now, d.stats.errors⟩ (d.scaling c)
    (sample.dieTemperature? c) (boardFrame (sample.raw c))

lemma closed_accept (c : Channel) (sample : Sample) (d : Driver σ) :
    (d.accept sample).1.get c = (d.making c sample).2.1 := by
  cases c with
  | accel => rfl
  | gyro => rfl

lemma stream_accept (c : Channel) (sample : Sample) (d : Driver σ) :
    (d.accept sample).2.streams.get c = (d.making c sample).2.2 := by
  rw [accept]
  simp only [publish]
  cases c with
  | accel => split <;> split <;> rfl
  | gyro => split <;> split <;> rfl

/-- The report that a stream makes of a sample goes into its backlog. -/
lemma backlog_accept (c : Channel) (sample : Sample) (d : Driver σ) :
    ((d.accept sample).2.streams.get c).backlog =
      (d.streams.get c).backlog.push (d.making c sample).1 := by
  rw [stream_accept]
  rfl

lemma getLast?_accept (c : Channel) (sample : Sample) (d : Driver σ) :
    ((d.accept sample).2.streams.get c).backlog.items.getLast? = some (d.making c sample).1 := by
  rw [backlog_accept, Backlog.items_push, List.getLast?_concat]

lemma published_publish (c : Channel) (report : Report) (closed : Bool) (d : Driver σ) :
    (d.publish c report closed).published.toList =
      d.published.toList ++ if closed && !d.muted then [⟨c, report⟩] else [] := by
  unfold publish
  split
  · simp
  · simp

/-- What is published of a sample's reports: those whose window closed, unless publication is
blocked. -/
def publishing (sample : Sample) (d : Driver σ) : List Publication :=
  [Channel.accel, .gyro].flatMap fun c =>
    if (d.making c sample).2.1 && !d.muted then [⟨c, (d.making c sample).1⟩] else []

lemma published_accept (sample : Sample) (d : Driver σ) :
    (d.accept sample).2.published.toList = d.published.toList ++ d.publishing sample := by
  have muted (c : Channel) (report : Report) (closed : Bool) (d : Driver σ) :
      (d.publish c report closed).muted = d.muted := by rw [publish_eq]
  rw [accept]
  simp only [published_publish, muted]
  rw [List.append_assoc, publishing, List.flatMap_cons, List.flatMap_cons, List.flatMap_nil,
    List.append_nil]
  rfl

/-- Accepting a sample leaves the settings alone. -/
lemma setup_accept (sample : Sample) (d : Driver σ) :
    (d.accept sample).2.setup =
      { d.setup with
        filters := (d.accept sample).2.setup.filters
        windows := (d.accept sample).2.setup.windows } := by
  rw [accept_eq]
  rfl

section

variable (c : Channel) (sample : Sample) (d : Driver σ)

/-- A report goes through each filter once. -/
lemma filtered_making : (d.making c sample).1.filtered =
    (d.setup.filters.get c).zipWith (fun f x => (f.apply x).1) (d.making c sample).1.calibrated := by
  cases c with
  | accel => rfl
  | gyro => rfl

lemma filters_making : (d.making c sample).2.2.filters =
    (d.setup.filters.get c).zipWith (fun f x => (f.apply x).2) (d.making c sample).1.calibrated := by
  cases c with
  | accel => rfl
  | gyro => rfl

/-- A report goes through the window once. -/
lemma window_making : (d.making c sample).2.2.window =
    ((d.setup.windows.get c).put (d.making c sample).1.time
      (d.making c sample).1.calibrated).2 := by
  cases c with
  | accel => rfl
  | gyro => rfl

lemma closed_making : (d.making c sample).2.1 =
    ((d.setup.windows.get c).put (d.making c sample).1.time
      (d.making c sample).1.calibrated).1.isSome := by
  cases c with
  | accel => rfl
  | gyro => rfl

lemma change_making : ((d.making c sample).1.change, (d.making c sample).1.duration) =
    reported ((d.setup.windows.get c).put (d.making c sample).1.time
      (d.making c sample).1.calibrated).1 := by
  rw [windows_setup, making, Stream.accept]
  dsimp only
  generalize (d.streams.get c).window.put _ _ = r
  obtain ⟨_ | delta, window⟩ := r
  · rfl
  · rfl

end

/-! ### Cycles -/

/-- From one state to the other nothing in the interior has changed, except for what is remembered of
the last block. -/
structure SameButGuard (d d' : Driver σ) : Prop where
  interior : d'.interior = { d.interior with processing.guard := d'.guard }

namespace SameButGuard

variable {d d' d'' : Driver σ}

lemma of_same (same : d'.interior = d.interior) : SameButGuard d d' := by
  have guard : d'.guard = d.guard := congrArg (·.processing.guard) same
  refine ⟨?_⟩
  rw [same, guard]
  rfl

lemma trans (h : SameButGuard d d') (h' : SameButGuard d' d'') : SameButGuard d d'' :=
  ⟨by rw [h'.interior, h.interior]⟩

lemma setup (same : SameButGuard d d') : d'.setup = d.setup :=
  (congrArg Interior.setup same.interior :)

lemma streams (same : SameButGuard d d') : d'.streams = d.streams :=
  congrArg (·.processing.streams) same.interior

lemma published (same : SameButGuard d d') : d'.published = d.published :=
  congrArg (·.processing.published) same.interior

end SameButGuard

/-- The ways in which a cycle can go, as far as reports are concerned. -/
inductive Yield (d : Driver σ) : Except Failure Cycle → Driver σ → Prop where
  | nothing {outcome : Except Failure Cycle} {d' : Driver σ} (unsampled : isSampled outcome = false)
      (same : SameButGuard d d') : Yield d outcome d'
  | reports {d₁ : Driver σ} (sample : Sample) (same : SameButGuard d d₁) :
      Yield d (.ok (.sampled (d₁.accept sample).1)) (d₁.accept sample).2

lemma Yield.of_same {d d₀ d' : Driver σ} {outcome : Except Failure Cycle}
    (same : SameButGuard d d₀) (yield : Yield d₀ outcome d') : Yield d outcome d' := by
  cases yield with
  | nothing unsampled same' => exact .nothing unsampled (same.trans same')
  | reports sample same' => exact .reports sample (same.trans same')

lemma Digestion.yield {block : Vector UInt8 blockSize} {d d' : Driver σ}
    {outcome : Except Failure Cycle} (digested : Digestion block d outcome d') :
    Yield d outcome d' := by
  cases digested with
  | repeated | empty | withheld => exact .nothing rfl ⟨rfl⟩
  | accepted guard closed streams temperature published trusted made =>
    have same : SameButGuard d { d with guard := guard }.countedGood := ⟨rfl⟩
    have yield : Yield d _ _ := .reports (Sample.ofBlock block) same
    rw [made] at yield
    exact yield

variable [Transport σ]

/-- Up to the digestion of the block, a cycle leaves the interior alone. -/
lemma Course.yield {d d' : Driver σ} {outcome : Except Failure Cycle}
    (course : Course d outcome d') : Yield d outcome d' := by
  cases course with
  | skipped => exact .nothing rfl ⟨rfl⟩
  | asleep _ restored => exact .nothing rfl (.of_same restored.interior)
  | lost _ restored fetched =>
    exact .nothing rfl (.of_same (Opening.lost restored fetched).interior)
  | digested _ restored fetched verified digested =>
    have opened := (Opening.fetched restored fetched).interior
    refine digested.yield.of_same (.of_same (.trans ?_ opened))
    split at verified
    · exact verified.interior
    · rw [verified]

end Driver

/-! ### The report of a cycle -/

namespace Passage

open Driver

variable {σ : Type} [Transport σ] {p : Passage σ}

lemma yield (p : Passage σ) : Yield p.before p.outcome p.after := (Course.of_measure p.before).yield

/-- The report that the cycle made on a stream: the last one in its backlog. -/
def report? (c : Channel) (p : Passage σ) : Option Report :=
  if p.samples then (p.after.streams.get c).backlog.items.getLast? else none

/-- A window of the stream closed with the cycle's report. -/
def closed (c : Channel) (p : Passage σ) : Bool :=
  match p.outcome with
  | .ok (.sampled closed) => closed.get c
  | _ => false

/-- The reports of the cycle whose window closed while publication was not blocked. -/
def publications (p : Passage σ) : List Publication :=
  [Channel.accel, .gyro].flatMap fun c =>
    if p.closed c && !p.before.muted then (p.report? c).toList.map (⟨c, ·⟩) else []

/-- A cycle that did not sample made nothing. -/
lemma report?_of_unsampled (c : Channel) (unsampled : p.samples = false) : p.report? c = none := by
  simp [report?, unsampled]

lemma closed_of_unsampled (c : Channel) (unsampled : p.samples = false) : p.closed c = false := by
  rw [closed]
  split
  · next outcome => simp [Passage.samples, outcome, isSampled] at unsampled
  · rfl

/-- A cycle that sampled accepted one sample. -/
lemma exists_sample (samples : p.samples = true) :
    ∃ (d : Driver σ) (sample : Sample), SameButGuard p.before d ∧
      p.outcome = .ok (.sampled (d.accept sample).1) ∧ p.after = (d.accept sample).2 := by
  have yield := p.yield
  rw [Passage.samples] at samples
  generalize p.outcome = outcome at yield samples ⊢
  generalize p.after = after at yield ⊢
  cases yield with
  | nothing unsampled => cases unsampled.symm.trans samples
  | reports sample same => exact ⟨_, sample, same, rfl, rfl⟩

lemma interior_of_unsampled (unsampled : p.samples = false) :
    SameButGuard p.before p.after := by
  have yield := p.yield
  rw [Passage.samples] at unsampled
  generalize p.outcome = outcome at yield unsampled
  generalize p.after = after at yield ⊢
  cases yield with
  | nothing _ same => exact same
  | reports => cases unsampled

lemma report?_of_accept {c : Channel} {d : Driver σ} {sample : Sample}
    (outcome : p.outcome = .ok (.sampled (d.accept sample).1))
    (after : p.after = (d.accept sample).2) : p.report? c = some (d.making c sample).1 := by
  have samples : p.samples = true := by rw [Passage.samples, outcome]; rfl
  rw [report?, if_pos samples, after, getLast?_accept]

/-- A cycle that samples makes one report on each stream, and puts it into the backlog. -/
lemma backlog_of_samples (c : Channel) (samples : p.samples = true) :
    ∃ r, p.report? c = some r ∧
      (p.after.streams.get c).backlog = (p.before.streams.get c).backlog.push r := by
  obtain ⟨d, sample, same, outcome, after⟩ := p.exists_sample samples
  have streams : d.streams = p.before.streams := same.streams
  refine ⟨_, report?_of_accept outcome after, ?_⟩
  rw [after, backlog_accept, ← streams]

/-- After a cycle, a report in the backlog was there before or was made by the cycle. -/
lemma mem_backlog {c : Channel} {r : Report}
    (queued : r ∈ (p.after.streams.get c).backlog.items) :
    r ∈ (p.before.streams.get c).backlog.items ∨ p.report? c = some r := by
  cases samples : p.samples with
  | false =>
    have streams := (p.interior_of_unsampled samples).streams
    exact .inl (streams ▸ queued)
  | true =>
    obtain ⟨made, report, pushed⟩ := p.backlog_of_samples c samples
    rw [pushed, Backlog.items_push, List.mem_append, List.mem_singleton] at queued
    rcases queued with old | rfl
    · left
      split at old
      · exact List.mem_of_mem_tail old
      · exact old
    · exact .inr report

lemma isSome_report? (c : Channel) (p : Passage σ) : (p.report? c).isSome = p.samples := by
  cases samples : p.samples with
  | false => rw [report?_of_unsampled c samples]; rfl
  | true =>
    obtain ⟨r, report, -⟩ := p.backlog_of_samples c samples
    rw [report]
    rfl

lemma closed_of_accept {c : Channel} {d : Driver σ} {sample : Sample}
    (outcome : p.outcome = .ok (.sampled (d.accept sample).1)) :
    p.closed c = (d.making c sample).2.1 := by
  rw [closed, outcome]
  exact closed_accept c sample d

/-- What is published grows by the publications of the cycle. -/
lemma published_after (p : Passage σ) :
    p.after.published.toList = p.before.published.toList ++ p.publications := by
  cases samples : p.samples with
  | false =>
    have same := (p.interior_of_unsampled samples).published
    have nothing : p.publications = [] := by
      simp [publications, report?_of_unsampled _ samples]
    rw [nothing, List.append_nil]
    exact congrArg Array.toList same
  | true =>
    obtain ⟨d, sample, same, outcome, after⟩ := p.exists_sample samples
    have published : d.published = p.before.published := same.published
    have muted : d.muted = p.before.muted := congrArg (·.processing.muted) same.interior
    rw [after, published_accept, published, publishing, publications]
    simp only [closed_of_accept outcome, report?_of_accept outcome after, muted, Option.toList_some,
      List.map_cons, List.map_nil]

end Passage

namespace Driver

open Routine

variable {σ : Type}

/-! ### Steps -/

/-- The operation may change settings, filters or windows by itself. -/
def Operation.adjusts : Operation → Bool
  | .initialise | .reset | .setPollInterval _ | .setLowPass .. | .setSampleRate _
  | .setFullScale _ => true
  | _ => false

variable [Transport σ]

namespace Step

/-- The report that the step's cycle made on a stream. -/
def report? (c : Channel) (s : Step σ) : Option Report := s.passage?.bind (Passage.report? c)

/-- A window of the stream closed in the step. -/
def closed (c : Channel) (s : Step σ) : Bool := s.passage?.any (Passage.closed c)

/-- What the step published. -/
def publications (s : Step σ) : List Publication := s.passage?.toList.flatMap Passage.publications

end Step

/-- The reports that a run made on a stream, in order. -/
def reports (c : Channel) (steps : List (Step σ)) : List Report := steps.filterMap (Step.report? c)

lemma reports_eq (c : Channel) (steps : List (Step σ)) :
    reports c steps = ((cycles steps).map (Passage.report? c)).reduceOption := by
  rw [List.reduceOption, List.filterMap_map, cycles, List.filterMap_filterMap]
  rfl

lemma setup_read (c : Channel) {max : Nat} {d : Driver σ} (some : max ≠ 0) :
    (perform (.read c max) d).2.setup =
      if d.pollInterval = 0 then
        (measure { d with streams := d.streams.modify c (·.flush) }).2.setup
      else d.setup := by
  rw [perform, (answered ..).1]
  split
  · next onDemand =>
    rw [read_of_demand c some onDemand]
    exact Leaves.after (fun _ => countedTake_leaves c max) measure _
  · next polled =>
    rw [read_of_polled c some polled]
    exact countedTake_leaves c max d

/-- Besides its cycle, a self test leaves the interior alone. -/
lemma interior_selfTest (c : Channel) (d : Driver σ) :
    (perform (.selfTest c) d).2.interior =
      if d.stats.cycles = 0 then (measure d).2.interior else d.interior := by
  have judged : (selfTest c d).2.interior = (ensureSampled d).2.interior :=
    Leaves.after (verdict_leaves c) ensureSampled d
  rw [perform, (answered ..).1, judged, ensureSampled, bind_apply]
  simp only [look_apply]
  split
  · refine Leaves.after (fun result => ?_) (attempt measure) d
    cases result with
    | ok => exact .bind .look fun _ => .pure _
    | error cause => exact .bind (note_leaves _) fun _ => .bind .look fun _ => .pure _
  · rfl

lemma setup_selfTest (c : Channel) (d : Driver σ) :
    (perform (.selfTest c) d).2.setup =
      if d.stats.cycles = 0 then (measure d).2.setup else d.setup := by
  refine (congrArg Interior.setup (interior_selfTest c d)).trans ?_
  split
  · rfl
  · rfl

namespace Step

/-- Around its cycle, a step changes neither settings nor filters nor windows. -/
lemma setup_around {s : Step σ} {p : Passage σ} (within : s.passage? = some p) :
    p.before.setup = s.before.setup ∧ s.after.setup = p.after.setup := by
  obtain ⟨op, d⟩ := s
  cases op with
  | measure =>
    cases within
    exact ⟨rfl, congrArg setup (answered measure .cycle d).1⟩
  | read c max =>
    obtain ⟨⟨some, onDemand⟩, rfl⟩ := passage?_read_eq_some_iff.mp within
    have after := setup_read (d := d) c some
    rw [if_pos onDemand] at after
    have flushed : Leaves setup (updateStream c (·.flush) : Routine σ Unit) :=
      updateStream_leaves (f := Stream.flush) (fun _ => rfl) (fun _ => rfl) c
    exact ⟨flushed d, after⟩
  | selfTest c =>
    obtain ⟨fresh, rfl⟩ := passage?_selfTest_eq_some_iff.mp within
    have after := setup_selfTest c d
    rw [if_pos fresh] at after
    exact ⟨rfl, after⟩
  | _ => cases within

/-- A step without a cycle changes neither settings nor filters nor windows, unless its operation
does so by itself. -/
lemma setup_of_plain {s : Step σ} (without : s.passage? = none)
    (plain : s.operation.adjusts = false) : s.after.setup = s.before.setup := by
  obtain ⟨op, d⟩ := s
  have left {α : Type} {x : Routine σ α} {f : α → Answer} (hx : Leaves setup x) :
      ((do pure (f (← x)) : Routine σ Answer) d).2.setup = d.setup := by
    rw [(answered x f d).1, hx d]
  cases op with
  | probe => exact left (leaves_setup probe_leaves)
  | measure => cases without
  | read c max =>
    by_cases nothing : max = 0
    · subst nothing
      rw [after, perform, read_zero]
      exact left (.fail _)
    · have polled : d.pollInterval ≠ 0 := fun onDemand =>
        passage?_read_eq_none_iff.mp without ⟨nothing, onDemand⟩
      exact (setup_read c nothing).trans (if_neg polled)
  | selfTest c =>
    have sampled : d.stats.cycles ≠ 0 := passage?_selfTest_eq_none_iff.mp without
    exact (setup_selfTest c d).trans (if_neg sampled)
  | setQueueDepth c depth => exact left (setQueueDepth_leaves c depth)
  | setCalibration c calibration => exact left (setCalibration_leaves c calibration)
  | forgetHistory => exact left (.update fun _ => rfl)
  | setMuted muted => exact left (.update fun _ => rfl)
  | dumpRegisters => exact left (leaves_setup (readAll_leaves _))
  | provokeSlowRead =>
    have ended := congrArg Interior.setup (provokeSlowRead_interior d)
    rw [after, perform, (answered ..).1]
    exact ended
  | summarise => exact left (leaves_setup summarise_leaves)
  | wait us => exact left (leaves_setup (delay_leaves us))
  | _ => cases plain

/-- A step makes a report on a stream exactly if its cycle samples. -/
lemma isSome_report? (c : Channel) (s : Step σ) : (s.report? c).isSome = s.samples := by
  rw [report?, samples]
  cases s.passage? with
  | none => rfl
  | some p => exact p.isSome_report? c

/-- What was published grows by the publications of the step. -/
lemma published_after (s : Step σ) :
    s.after.published.toList = s.before.published.toList ++ s.publications := by
  cases Progress.of_step s with
  | quiet without _ quiet => simp [publications, without, quiet.idle.published]
  | reset without _ first last =>
    have published : s.after.published = s.before.published :=
      last.idle.published.trans first.idle.published
    simp [publications, without, published]
  | @cycle p within _ first last =>
    have before := first.idle.published
    rw [last.idle.published, p.published_after, before]
    simp [publications, within]

/-- After a step, a report in the backlog was there before or was made in the step. -/
lemma mem_backlog {c : Channel} {r : Report} {s : Step σ}
    (queued : r ∈ (s.after.streams.get c).backlog.items) :
    r ∈ (s.before.streams.get c).backlog.items ∨ s.report? c = some r := by
  cases Progress.of_step s with
  | quiet _ _ quiet => exact .inl ((quiet.idle.backlog c).subset queued)
  | reset _ _ first last =>
    exact .inl ((first.idle.backlog c).subset ((last.idle.backlog c).subset queued))
  | @cycle p within _ first last =>
    rcases p.mem_backlog ((last.idle.backlog c).subset queued) with old | report
    · exact .inl ((first.idle.backlog c).subset old)
    · right
      simpa [report?, within] using report

end Step

/-- After a run, a report in the backlog was there before or was made in one of the steps. -/
lemma mem_backlog_performAll {c : Channel} {r : Report} {ops : List Operation} {d : Driver σ}
    (queued : r ∈ ((performAll ops d).2.streams.get c).backlog.items) :
    r ∈ (d.streams.get c).backlog.items ∨ ∃ s ∈ history ops d, s.report? c = some r := by
  induction ops generalizing d with
  | nil => exact .inl queued
  | cons op ops ih =>
    rcases ih queued with early | ⟨s, member, report⟩
    · rcases Step.mem_backlog (s := ⟨op, d⟩) early with old | report
      · exact .inl old
      · exact .inr ⟨_, List.mem_cons_self, report⟩
    · exact .inr ⟨s, List.mem_cons_of_mem _ member, report⟩

end Driver

end InertialSensor
