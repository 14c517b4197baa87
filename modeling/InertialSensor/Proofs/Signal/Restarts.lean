import InertialSensor.Proofs.Driver.Related
import InertialSensor.Proofs.Signal.Lockstep
import InertialSensor.Proofs.Signal.Windows
import InertialSensor.Simulation.Sensor

/-!
# What outlasts a restart

When sampling is restarted the driver forgets the last block and all unread reports. It keeps what
the filters remember and the windows that are open. Two states that differ only by samples of the
past (`Driver.blank`) therefore come to the same cycles after a restart, and make the same reports
except for filtered values and windows: up to the verdict on its block a cycle does not look at
anything else (`judgedCycle`), and `Akin` is a coupling. What filters and windows add is decided by
what they answer to the new samples (`resumed`), and of the windows that close only the first one of
a stream can reach back beyond the restart (`DeltaWindow.reaches_back`).
-/

namespace InertialSensor

/-! ### Without what samples leave behind -/

/-- The filter as if it had never been given a sample. -/
def LowPass.blank (f : LowPass) : LowPass := { f with d1 := 0, d2 := 0 }

/-- The window as if it had never been given a sample. -/
def DeltaWindow.blank (w : DeltaWindow) : DeltaWindow :=
  { interval := w.interval, coning := w.coning }

/-- The stream as if it had never been given a sample. -/
def Stream.blank (s : Stream) : Stream :=
  { s with
    filters := s.filters.map (·.blank)
    window := s.window.blank
    backlog := { s.backlog with items := [], overwritten := 0 }
    closed := 0 }

/-- The report without what depends on earlier samples: the filtered value, and the window that
closed with it. -/
def Report.plain (r : Report) : Report :=
  { r with filtered := .replicate 0, change := .replicate 0, duration := 0 }

/-- What a cycle came to, without the windows that closed. -/
def Cycle.kind : Cycle → Cycle
  | .sampled _ => .sampled ⟨false, false⟩
  | other => other

namespace Stream

lemma blank_accept (s : Stream) (conditions : Conditions) (scaling : Scaling)
    (temperature : Option DieTemperature) (raw : Axes Int16) :
    (s.accept conditions scaling temperature raw).2.2.blank = s.blank := by
  have filter (f : LowPass) (x : Float32) : (f.apply x).2.blank = f.blank := by
    rw [LowPass.apply_eq]
    rfl
  have window (time : UInt64) (value : Axes Float32) :
      (s.window.put time value).2.blank = s.window.blank := by
    obtain ⟨interval, coning⟩ := s.window.settings_put time value
    rw [DeltaWindow.blank, interval, coning, DeltaWindow.blank]
  simp only [accept, blank, Stream.filter, Axes.map, Axes.zipWith, filter, window,
    Backlog.capacity_push]

/-- Apart from what depends on earlier samples, the report on a sample is made by the settings. -/
lemma plain_accept {s t : Stream} (same : s.blank = t.blank) (conditions : Conditions)
    (scaling : Scaling) (temperature : Option DieTemperature) (raw : Axes Int16) :
    (s.accept conditions scaling temperature raw).1.plain =
      (t.accept conditions scaling temperature raw).1.plain := by
  have calibration : s.calibration = t.calibration := congrArg (·.calibration) same
  simp only [accept, Report.plain, calibrate, calibration]

/-- To the samples of these reports, the filters and the windows of the two streams answer alike. -/
def AnswersAlike (s t : Stream) (rs : List Report) : Prop :=
  (∀ a, ((s.filters.get a).run (rs.map (·.calibrated.get a))).1 =
      ((t.filters.get a).run (rs.map (·.calibrated.get a))).1) ∧
    (s.window.run (rs.map fun r => (r.time, r.calibrated))).1.map reported =
      (t.window.run (rs.map fun r => (r.time, r.calibrated))).1.map reported

end Stream

namespace Driver

open Routine

variable {σ : Type}

/-- The state as if no sample had ever been accepted. It has the same bus, clock and settings, and
the same counts, and recoveries and verification are where they are. -/
def blank (d : Driver σ) : Driver σ :=
  { d with
    guard := {}
    streams := d.streams.map (·.blank)
    temperature := 0
    published := #[]
    log := #[] }

lemma blank_streams {d e : Driver σ} (same : d.blank = e.blank) (c : Channel) :
    (d.streams.get c).blank = (e.streams.get c).blank := by
  have streams := congrArg (·.streams.get c) same
  simpa only [blank, PerChannel.get_map] using streams

lemma blank_accept (sample : Sample) (d : Driver σ) : (d.accept sample).2.blank = d.blank := by
  have stream (c : Channel) :
      ((d.accept sample).2.streams.get c).blank = (d.streams.get c).blank := by
    rw [stream_accept]
    exact Stream.blank_accept ..
  have streams : (d.accept sample).2.streams.map (·.blank) = d.streams.map (·.blank) :=
    congrArg₂ PerChannel.mk (stream .accel) (stream .gyro)
  rw [blank, streams, accept_eq]
  rfl

lemma plain_making {d e : Driver σ} (same : d.blank = e.blank) (c : Channel) (sample : Sample) :
    (d.making c sample).1.plain = (e.making c sample).1.plain := by
  have config : d.config = e.config := congrArg (·.config) same
  have now : d.now = e.now := congrArg (·.clock.now) same
  have errors : d.stats.errors = e.stats.errors := congrArg (·.stats.errors) same
  have scaling : d.scaling c = e.scaling c := congrArg (·.scaling c) same
  rw [making, making, config, now, errors, scaling]
  exact Stream.plain_accept (blank_streams same c) ..

/-! ### A cycle up to its sample -/

/-- What a cycle makes of its block, short of accepting it. -/
inductive Verdict where
  | skipped
  | repeated
  | withheld
  | accepted (sample : Sample)

/-- The cycle's end, given the verdict. -/
def conclude : Verdict → Routine σ Cycle
  | .skipped => pure .skipped
  | .repeated => pure .duplicate
  | .withheld => pure .settling
  | .accepted sample => fun d => (.ok (.sampled (d.accept sample).1), (d.accept sample).2)

/-- The verdict on a block. -/
def judge (block : Vector UInt8 blockSize) : Routine σ Verdict := do
  if ← examineRepeat block then do
    tally fun s => { s with duplicates := s.duplicates + 1 }
    note .repeated
    pure .repeated
  else if (Sample.ofBlock block).isZero then do
    countBad
    note .zeroSample
    fail .zeroSample
  else do
    tally fun s => { s with goodTransfers := s.goodTransfers + 1 }
    if ← settle then pure .withheld else pure (.accepted (Sample.ofBlock block))

lemma digest_eq (block : Vector UInt8 blockSize) :
    digest (σ := σ) block = judge block >>= conclude := by
  rw [digest, judge, bind_assoc]
  refine congrArg (examineRepeat block >>= ·) (funext fun isRepeat => ?_)
  cases isRepeat with
  | true => rfl
  | false =>
    simp only [Bool.false_eq_true, if_false]
    split
    · rfl
    · rw [bind_assoc]
      refine congrArg (tally _ >>= ·) (funext fun _ => ?_)
      rw [bind_assoc]
      refine congrArg (settle >>= ·) (funext fun withheld => ?_)
      cases withheld with
      | true => rfl
      | false => rfl

variable [Transport σ]

/-- A cycle up to the verdict on its block. -/
def judgedCycle : Routine σ Verdict := do
  let d ← look
  if d.isSuspended then pure .skipped
  else do
    let block ← opening
    if d.config.verifies then verifyRegister
    judge block

lemma measure_eq : measure (σ := σ) = judgedCycle >>= conclude := by
  funext d
  rw [judgedCycle, bind_assoc, bind_apply]
  simp only [look_apply]
  cases suspended : d.isSuspended with
  | true => exact measure_of_suspended suspended
  | false =>
    rw [measure_of_active suspended, if_neg Bool.false_ne_true, bind_assoc]
    refine congrFun (congrArg (opening >>= ·) (funext fun block => ?_)) d
    rw [digest_eq]
    split
    · rw [bind_assoc]
    · rfl

/-! ### Cycles from two pasts -/

/-- From the point of view of samples, the two states have their pasts in common up to what these
left behind, and both remember the same block. -/
structure Akin (d e : Driver σ) : Prop where
  blank : d.blank = e.blank
  guard : d.guard = e.guard

lemma akin_coupling : Coupling (Akin (σ := σ)) where
  now h := congrArg (·.clock.now) h.blank
  verifies h := congrArg (·.config.verifies) h.blank
  inFactoryTest h := congrArg (·.inFactoryTest) h.blank
  watch h := congrArg (·.watch) h.blank
  guard h := h.guard
  read {d e _} address speed buffer h := by
    have bus : d.bus = e.bus := congrArg (·.bus) h.blank
    rw [bus]
    exact ⟨rfl, congrArg (fun k : Driver σ =>
      { k with bus := (Transport.read address speed buffer e.bus).2 }) h.blank, h.guard⟩
  write {d e} address value h := by
    have bus : d.bus = e.bus := congrArg (·.bus) h.blank
    rw [bus]
    exact ⟨rfl, congrArg (fun k : Driver σ =>
      { k with bus := (Transport.write address value e.bus).2 }) h.blank, h.guard⟩
  setWatch watch h := ⟨congrArg (fun k : Driver σ => { k with watch := watch }) h.blank, h.guard⟩
  setGuard _ h := ⟨h.blank, rfl⟩
  note _ h := ⟨h.blank, h.guard⟩
  count {_ _ f} _ h :=
    ⟨congrArg (fun k : Driver σ => { k with stats := f k.stats }) h.blank, h.guard⟩

lemma judge_respects (block : Vector UInt8 blockSize) :
    Respects Akin (judge (σ := σ) block) := by
  refine .bind (akin_coupling.examineRepeat_respects block) fun isRepeat => ?_
  split
  · exact .bind (akin_coupling.tally_respects .duplicate) fun _ =>
      .bind (akin_coupling.note_respects _) fun _ => .pure _
  · split
    · exact .bind akin_coupling.countBad_respects fun _ =>
        .bind (akin_coupling.note_respects _) fun _ => .fail _
    · refine .bind (akin_coupling.tally_respects .good) fun _ => ?_
      refine .bind akin_coupling.settle_respects fun withheld => ?_
      split
      · exact .pure _
      · exact .pure _

lemma judgedCycle_respects : Respects Akin (judgedCycle (σ := σ)) := by
  refine .look_bind
    (fun h => by rw [akin_coupling.isSuspended h, akin_coupling.verifies h]) fun d => ?_
  split
  · exact .pure _
  · have opened : Respects Akin (opening (σ := σ)) :=
      .bind akin_coupling.restoreClock_respects fun _ =>
        .bind (akin_coupling.tally_respects .cycle) fun _ => akin_coupling.fetchBlock_respects
    refine .bind opened fun block => ?_
    split
    · exact .bind akin_coupling.verifyRegister_respects fun _ => judge_respects block
    · exact judge_respects block

omit [Transport σ] in
lemma akin_of_accept {d e : Driver σ} (akin : Akin d e) (sample : Sample) :
    Akin (d.accept sample).2 (e.accept sample).2 where
  blank := by rw [blank_accept, blank_accept, akin.blank]
  guard := by
    rw [accept_eq sample d, accept_eq sample e]
    exact akin.guard

/-- Two cycles came to the same kind of outcome, and made the same reports up to what depends on
earlier samples. -/
def SamePlain (p q : Passage σ) : Prop :=
  p.outcome.map Cycle.kind = q.outcome.map Cycle.kind ∧
    ∀ c, (p.report? c).map Report.plain = (q.report? c).map Report.plain

/-- From two pasts a cycle comes to the same kind of outcome, and makes the same reports up to what
depends on earlier samples. -/
lemma measure_of_akin {d e : Driver σ} (akin : Akin d e) :
    let p : Passage σ := ⟨d⟩
    let q : Passage σ := ⟨e⟩
    SamePlain p q ∧ Akin p.after q.after := by
  intro p q
  obtain ⟨same, akin'⟩ := judgedCycle_respects d e akin
  have left : (p.outcome, p.after) = (judgedCycle >>= conclude) d := by rw [← measure_eq]; rfl
  have right : (q.outcome, q.after) = (judgedCycle >>= conclude) e := by rw [← measure_eq]; rfl
  rw [bind_apply] at left right
  generalize judgedCycle d = r at same akin' left
  generalize judgedCycle e = r' at same akin' right
  obtain ⟨result, d'⟩ := r
  obtain ⟨result', e'⟩ := r'
  cases same
  have unsampled {outcome : Except Failure Cycle} (never : isSampled outcome = false)
      (left : (p.outcome, p.after) = (outcome, d')) (right : (q.outcome, q.after) = (outcome, e')) :
      SamePlain p q ∧ Akin p.after q.after := by
    obtain ⟨ends, after⟩ := Prod.mk.inj left
    obtain ⟨ends', after'⟩ := Prod.mk.inj right
    refine ⟨⟨by rw [ends, ends'], fun c => ?_⟩, by rwa [after, after']⟩
    rw [Passage.report?_of_unsampled c (by rwa [Passage.samples, ends]),
      Passage.report?_of_unsampled c (by rwa [Passage.samples, ends'])]
  cases result with
  | error cause => exact unsampled rfl left right
  | ok verdict =>
    cases verdict with
    | skipped | repeated | withheld => exact unsampled rfl left right
    | accepted sample =>
      obtain ⟨ends, after⟩ := Prod.mk.inj left
      obtain ⟨ends', after'⟩ := Prod.mk.inj right
      refine ⟨⟨by rw [ends, ends']; rfl, fun c => ?_⟩, ?_⟩
      · rw [Passage.report?_of_accept ends after, Passage.report?_of_accept ends' after']
        exact congrArg some (plain_making akin'.blank c sample)
      · rw [after, after']
        exact akin_of_accept akin' sample

/-! ### Runs from two pasts -/

/-- Cycles, each some time after the one before. -/
def cyclesAfter (gaps : List UInt64) : List Operation := gaps.flatMap fun us => [.wait us, .measure]

/-- The steps of these cycles after the history was forgotten. -/
def afterRestart (gaps : List UInt64) (d : Driver σ) : List (Step σ) :=
  history (cyclesAfter gaps) (forgetHistory d).2

omit [Transport σ] in
lemma akin_of_forgetHistory {d e : Driver σ} (same : d.blank = e.blank) :
    Akin (forgetHistory d).2 (forgetHistory e).2 := by
  have flushed (d : Driver σ) : (forgetHistory d).2.blank = d.blank := rfl
  exact ⟨by rw [flushed, flushed, same], rfl⟩

lemma cycles_cyclesAfter_cons (us : UInt64) (gaps : List UInt64) (d : Driver σ) :
    let p : Passage σ := ⟨(delay us d).2⟩
    cycles (history (cyclesAfter (us :: gaps)) d) =
      p :: cycles (history (cyclesAfter gaps) p.after) := by
  intro p
  have after : (perform .measure p.before).2 = p.after := (answered measure .cycle p.before).1
  rw [← after]
  rfl

/-- From two pasts, cycles one by one come to the same kind of outcome, and make the same reports up
to what depends on earlier samples. -/
lemma cycles_of_akin (gaps : List UInt64) {d e : Driver σ} (akin : Akin d e) :
    List.Forall₂ SamePlain
      (cycles (history (cyclesAfter gaps) d)) (cycles (history (cyclesAfter gaps) e)) := by
  induction gaps generalizing d e with
  | nil => exact .nil
  | cons us gaps ih =>
    have waited : Akin (delay us d).2 (delay us e).2 :=
      ⟨congrArg (fun k : Driver σ => { k with clock := k.clock.advance us }) akin.blank, akin.guard⟩
    obtain ⟨first, akin'⟩ := measure_of_akin waited
    rw [cycles_cyclesAfter_cons, cycles_cyclesAfter_cons]
    exact .cons first (ih akin')

/-! ### Outcomes from their kinds and the windows that closed -/

/-- The windows that closed, in the cycles that sampled. -/
lemma closed_cycles (c : Channel) (steps : List (Step σ)) :
    (steps.filter Step.samples).map (Step.closed c) =
      ((cycles steps).filter Passage.samples).map (Passage.closed c) := by
  induction steps with
  | nil => rfl
  | cons s steps ih =>
    rw [cycles_cons, List.filter_cons]
    cases within : s.passage? with
    | none =>
      have unsampled : s.samples = false := by simp [Step.samples, within]
      simp [unsampled, ih]
    | some p =>
      have samples : s.samples = p.samples := by simp [Step.samples, within]
      have closed : s.closed c = p.closed c := by simp [Step.closed, within]
      cases sampled : p.samples with
      | true => simp [samples, sampled, closed, ih]
      | false => simp [samples, sampled, ih]

lemma samples_of_kind {p q : Passage σ}
    (kind : p.outcome.map Cycle.kind = q.outcome.map Cycle.kind) : p.samples = q.samples := by
  have forgets (outcome : Except Failure Cycle) :
      isSampled (outcome.map Cycle.kind) = isSampled outcome := by
    rcases outcome with _ | (_ | _ | _ | _)
    all_goals rfl
  rw [Passage.samples, Passage.samples, ← forgets, kind, forgets]

/-- The kind of an outcome and the windows that closed make up the outcome. -/
lemma outcome_of_kind {p q : Passage σ}
    (kind : p.outcome.map Cycle.kind = q.outcome.map Cycle.kind)
    (closed : p.samples = true → ∀ c, p.closed c = q.closed c) : p.outcome = q.outcome := by
  have both (p : Passage σ) (samples : p.samples = true) :
      p.outcome = .ok (.sampled ⟨p.closed .accel, p.closed .gyro⟩) := by
    obtain ⟨d, sample, -, outcome, -⟩ := p.exists_sample samples
    simp only [Passage.closed, outcome]
    rfl
  have samples := samples_of_kind kind
  cases sampled : p.samples with
  | true => rw [both p sampled, both q (samples ▸ sampled), closed sampled, closed sampled]
  | false =>
    have unchanged (p : Passage σ) (unsampled : p.samples = false) :
        p.outcome.map Cycle.kind = p.outcome := by
      rw [Passage.samples] at unsampled
      generalize p.outcome = outcome at unsampled ⊢
      rcases outcome with _ | (_ | _ | _ | _)
      · rfl
      · rfl
      · rfl
      · rfl
      · cases unsampled
    rw [← unchanged p sampled, kind, unchanged q (samples ▸ sampled)]

lemma outcomes_of_kinds {ps qs : List (Passage σ)}
    (kinds : List.Forall₂ (fun p q => p.outcome.map Cycle.kind = q.outcome.map Cycle.kind) ps qs)
    (closed : ∀ c, (ps.filter Passage.samples).map (Passage.closed c) =
      (qs.filter Passage.samples).map (Passage.closed c)) :
    ps.map Passage.outcome = qs.map Passage.outcome := by
  induction kinds with
  | nil => rfl
  | @cons p q ps qs kind kinds ih =>
    have samples := samples_of_kind kind
    cases sampled : p.samples with
    | true =>
      simp only [List.filter_cons, ← samples, sampled, if_true, List.map_cons,
        List.cons.injEq] at closed
      rw [List.map_cons, List.map_cons, ih fun c => (closed c).2,
        outcome_of_kind kind fun _ c => (closed c).1]
    | false =>
      simp only [List.filter_cons, ← samples, sampled, Bool.false_eq_true, if_false] at closed
      have outcome := outcome_of_kind kind fun impossible => by cases sampled.symm.trans impossible
      rw [List.map_cons, List.map_cons, ih closed, outcome]

end Driver

/-! ### Windows that were open before -/

namespace DeltaWindow

/-- The ways to take a sample: as the first one, or without closing the window, or closing it. -/
inductive Taking (w : DeltaWindow) (time : UInt64) : Option Delta → DeltaWindow → Prop where
  | first {w' : DeltaWindow} (unprimed : w.lastTime = 0) (last : w'.lastTime = time)
      (opened : w'.openedAt = time) : Taking w time none w'
  | inside {w' : DeltaWindow} (primed : w.lastTime ≠ 0) (last : w'.lastTime = time)
      (opened : w'.openedAt = w.openedAt) : Taking w time none w'
  | closing {w' : DeltaWindow} {delta : Delta} (primed : w.lastTime ≠ 0)
      (last : w'.lastTime = time) (opened : w'.openedAt = time)
      (duration : delta.duration = elapsed w.openedAt time) (positive : delta.duration ≠ 0) :
      Taking w time (some delta) w'

lemma Taking.of_put (w : DeltaWindow) (time : UInt64) (value : Axes Float32) :
    Taking w time (w.put time value).1 (w.put time value).2 := by
  by_cases first : w.lastTime = 0
  · rw [put, if_pos first]
    exact .first first rfl rfl
  · obtain ⟨last, opened⟩ : (w.extend time value).lastTime = time ∧
        (w.extend time value).openedAt = w.openedAt := by
      rw [extend_eq]
      exact ⟨rfl, rfl⟩
    rw [put, if_neg first]
    dsimp only
    split
    next due =>
      have duration : (w.extend time value).total.duration = elapsed w.openedAt time := by
        rw [total, last, opened]
      refine .closing first last last duration fun zero => ?_
      obtain ⟨positive, reached⟩ := Bool.and_eq_true_iff.mp due
      have lengths := UInt64.lt_of_lt_of_le (of_decide_eq_true positive) (of_decide_eq_true reached)
      change 0 < (w.extend time value).total.duration at lengths
      rw [zero] at lengths
      exact absurd lengths (by decide)
    next => exact .inside first last opened

/-- A window tells its closing by a length that is not zero. -/
lemma isSome_of_run (w : DeltaWindow) (samples : List Timed) :
    (w.run samples).1.map Option.isSome =
      ((w.run samples).1.map reported).map fun told => decide (told.2 ≠ 0) := by
  induction samples generalizing w with
  | nil => rfl
  | cons s samples ih =>
    rw [run_cons, List.map_cons, List.map_cons, List.map_cons, ih]
    refine congrArg (· :: _) ?_
    have taking := Taking.of_put w s.1 s.2
    generalize (w.put s.1 s.2).1 = answer at taking ⊢
    cases taking with
    | first | inside => rfl
    | closing _ _ _ _ positive => exact (decide_eq_true positive).symm

lemma elapsed_le {start opened time : UInt64} (order : start ≤ opened) (later : start ≤ time) :
    elapsed opened time ≤ time - start := by
  unfold elapsed
  split
  next after =>
    rw [UInt64.le_iff_toNat_le] at order later after ⊢
    rw [UInt64.toNat_sub_of_le _ _ (UInt64.le_iff_toNat_le.mpr after),
      UInt64.toNat_sub_of_le _ _ (UInt64.le_iff_toNat_le.mpr later)]
    omega
  next => exact UInt64.zero_le

/-- Of the windows that close from a time on, only one that was open before can reach back beyond
it, and only the first one to close: its length is counted from its opening. -/
lemma reaches_back {w : DeltaWindow} {start : UInt64} {rs past later : List Report} {r : Report}
    (told : rs.map (fun r => (r.change, r.duration)) =
      (w.run (rs.map fun r => (r.time, r.calibrated))).1.map reported)
    (times : ∀ r ∈ rs, start ≤ r.time ∧ r.time ≠ 0) (split : rs = past ++ r :: later)
    (closed : r.duration ≠ 0) :
    if w.lastTime ≠ 0 ∧ ∀ r' ∈ past, r'.duration = 0 then r.duration = elapsed w.openedAt r.time
    else r.duration ≤ r.time - start := by
  induction past generalizing w rs with
  | nil =>
    subst split
    have taking := Taking.of_put w r.time r.calibrated
    simp only [List.nil_append, List.map_cons, run_cons, List.cons.injEq] at told
    have length : r.duration = (reported (w.put r.time r.calibrated).1).2 :=
      congrArg Prod.snd told.1
    generalize (w.put r.time r.calibrated).1 = answer at taking length
    cases taking with
    | first | inside => exact absurd length closed
    | closing primed _ _ duration =>
      rw [if_pos ⟨primed, nofun⟩, ← duration]
      exact length
  | cons first past ih =>
    subst split
    have taking := Taking.of_put w first.time first.calibrated
    simp only [List.cons_append, List.map_cons, run_cons, List.cons.injEq] at told
    have length : first.duration = (reported (w.put first.time first.calibrated).1).2 :=
      congrArg Prod.snd told.1
    have within := List.forall_mem_cons.mp times
    have rest := ih told.2 within.2 rfl
    generalize (w.put first.time first.calibrated).1 = answer at taking length
    generalize (w.put first.time first.calibrated).2 = w' at taking rest
    -- a window that opened at the first of these samples does not reach back beyond it
    have late (opened : w'.openedAt = first.time) : r.duration ≤ r.time - start := by
      split at rest
      next =>
        rw [rest]
        exact elapsed_le (opened ▸ within.1.1) (within.2 r (by simp)).1
      next => exact rest
    cases taking with
    | first unprimed _ opened =>
      rw [if_neg fun both => both.1 unprimed]
      exact late opened
    | closing _ _ opened _ positive =>
      rw [if_neg fun both => positive (length.symm.trans (both.2 first List.mem_cons_self))]
      exact late opened
    | inside primed last opened =>
      have primed' : w'.lastTime ≠ 0 := last ▸ within.1.2
      simp only [primed, primed', opened, ne_eq, not_false_eq_true, true_and,
        List.forall_mem_cons, length, reported] at rest ⊢
      exact rest

end DeltaWindow

/-! ### Reports from their parts -/

lemma Report.eq_of_plain {r r' : Report} (plain : r.plain = r'.plain)
    (filtered : ∀ a, r.filtered.get a = r'.filtered.get a)
    (told : (r.change, r.duration) = (r'.change, r'.duration)) : r = r' := by
  obtain ⟨change, duration⟩ := Prod.mk.inj told
  have whole (r : Report) : r =
      { r.plain with filtered := r.filtered, change := r.change, duration := r.duration } := rfl
  rw [whole r, whole r', plain, Axes.ext_get filtered, change, duration]

lemma reports_eq_of_plain {rs rs' : List Report} (plain : rs.map Report.plain = rs'.map Report.plain)
    (filtered : ∀ a, rs.map (·.filtered.get a) = rs'.map (·.filtered.get a))
    (told : rs.map (fun r => (r.change, r.duration)) =
      rs'.map fun r => (r.change, r.duration)) : rs = rs' := by
  induction rs generalizing rs' with
  | nil =>
    cases rs' with
    | nil => rfl
    | cons r' rs' => cases plain
  | cons r rs ih =>
    cases rs' with
    | nil => cases plain
    | cons r' rs' =>
      simp only [List.map_cons, List.cons.injEq] at plain filtered told
      rw [Report.eq_of_plain plain.1 (fun a => (filtered a).1) told.1,
        ih plain.2 (fun a => (filtered a).2) told.2]

namespace Driver

open Simulation

variable {σ : Type} [Transport σ]

/-! ### What filters and windows make of the new samples -/

/-- The filters and windows go on from where they were before the restart. -/
lemma resumed (gaps : List UInt64) (d : Driver σ) (c : Channel) :
    let rs := reports c (afterRestart gaps d)
    (∀ a, rs.map (·.filtered.get a) =
        (((d.streams.get c).filters.get a).run (rs.map (·.calibrated.get a))).1) ∧
      rs.map (fun r => (r.change, r.duration)) =
        ((d.streams.get c).window.run (rs.map fun r => (r.time, r.calibrated))).1.map reported ∧
      ((afterRestart gaps d).filter Step.samples).map (Step.closed c) =
        rs.map fun r => decide (r.duration ≠ 0) := by
  intro rs
  have kept : (forgetHistory d).2.setup = d.setup := rfl
  have undesigned (s : Step σ) (member : s ∈ afterRestart gaps d) : s.redesign? c = none := by
    have asked := operation_mem member
    simp only [cyclesAfter, List.mem_flatMap, List.mem_cons, List.not_mem_nil, or_false] at asked
    obtain ⟨us, -, waits | measures⟩ := asked
    · rw [Step.redesign?, waits]
    · rw [Step.redesign?, measures]
  obtain ⟨told, closed⟩ := changes_eq_run c (cyclesAfter gaps) (forgetHistory d).2
  rw [kept, windows_setup] at told closed
  refine ⟨fun a => ?_, told, ?_⟩
  · have run : history (cyclesAfter gaps) (forgetHistory d).2 = afterRestart gaps d ++ [] :=
      (List.append_nil _).symm
    refine filtered_eq_run run ?_ undesigned
    rw [kept, filters_setup]
    exact .refl _
  · rw [afterRestart, closed, DeltaWindow.isSome_of_run, ← told, List.map_map]
    rfl

/-- If the clock does not go back, reports are not made before the run. -/
lemma now_le_time {ops : List Operation} {d : Driver σ} {c : Channel}
    (forward : ∀ s ∈ history ops d, s.before.now ≤ s.after.now) :
    ∀ r ∈ reports c (history ops d), d.now ≤ r.time := by
  induction ops generalizing d with
  | nil => exact fun r member => by cases member
  | cons op ops ih =>
    intro r member
    obtain ⟨first, rest⟩ := List.forall_mem_cons.mp forward
    obtain ⟨s, within, report⟩ := List.mem_filterMap.mp member
    rcases List.mem_cons.mp within with rfl | within
    · rw [(Step.stamp report).1]
      exact UInt64.le_refl _
    · exact UInt64.le_trans first (ih rest r (List.mem_filterMap.mpr ⟨s, within, report⟩))

lemma plain_of_cycles {steps steps' : List (Step σ)}
    (same : List.Forall₂ SamePlain (cycles steps) (cycles steps')) (c : Channel) :
    (reports c steps).map Report.plain = (reports c steps').map Report.plain := by
  have made := map_eq_of_same same fun _ _ both => both.2 c
  rw [reports_eq, reports_eq, ← List.reduceOption_map, ← List.reduceOption_map, List.map_map,
    List.map_map]
  exact congrArg List.reduceOption made

/-- Reports that are the same up to what depends on earlier samples are the same exactly if the
filters and windows left behind answer alike. -/
lemma reports_eq_iff (gaps : List UInt64) {d e : Driver σ} {c : Channel}
    (plain : (reports c (afterRestart gaps d)).map Report.plain =
      (reports c (afterRestart gaps e)).map Report.plain) :
    reports c (afterRestart gaps d) = reports c (afterRestart gaps e) ↔
      (d.streams.get c).AnswersAlike (e.streams.get c) (reports c (afterRestart gaps d)) := by
  obtain ⟨filtered, told, -⟩ := resumed gaps d c
  obtain ⟨filtered', told', -⟩ := resumed gaps e c
  constructor
  · intro made
    rw [← made] at filtered' told'
    exact ⟨fun a => (filtered a).symm.trans (filtered' a), told.symm.trans told'⟩
  · rintro ⟨filters, windows⟩
    have calibrated (a : Axis) : (reports c (afterRestart gaps d)).map (·.calibrated.get a) =
        (reports c (afterRestart gaps e)).map (·.calibrated.get a) := by
      simpa only [List.map_map, Function.comp_def, Report.plain] using
        congrArg (List.map (·.calibrated.get a)) plain
    have timed : (reports c (afterRestart gaps d)).map (fun r => (r.time, r.calibrated)) =
        (reports c (afterRestart gaps e)).map fun r => (r.time, r.calibrated) := by
      simpa only [List.map_map, Function.comp_def, Report.plain] using
        congrArg (List.map fun r => (r.time, r.calibrated)) plain
    refine reports_eq_of_plain plain (fun a => ?_) ?_
    · rw [filtered a, filters a, calibrated a]
      exact (filtered' a).symm
    · rw [told, windows, timed]
      exact told'.symm

/-- A restart forgets the last block and the unread reports, and keeps filters and windows. Take two
states that differ at most by samples of the past, and the same gaps between cycles after a restart,
whatever the bus does. The cycles come one by one to the same kind of outcome, and their reports are
the same up to the filtered values and the windows. Outcomes and reports are wholly the same exactly
if, on each stream, the filters and the window left behind answer alike to the new samples.

If the clock has started and does not go back, a window that closes after the restart extends over
time after it only, unless it is the first one of its stream to close and a sample had been accepted
before; then it reaches back to where it was opened. -/
theorem restart_keeps_filters_and_windows {d e : Driver σ} (same : d.blank = e.blank)
    (gaps : List UInt64) :
    let steps := afterRestart gaps d
    let steps' := afterRestart gaps e
    List.Forall₂ SamePlain (cycles steps) (cycles steps') ∧
      ((cycles steps).map Passage.outcome = (cycles steps').map Passage.outcome ∧
          (∀ c, reports c steps = reports c steps') ↔
        ∀ c, (d.streams.get c).AnswersAlike (e.streams.get c) (reports c steps)) ∧
      (0 < d.now → (∀ s ∈ steps, s.before.now ≤ s.after.now) → ∀ c past r later,
        reports c steps = past ++ r :: later → r.duration ≠ 0 →
          let window := (d.streams.get c).window
          if window.lastTime ≠ 0 ∧ ∀ r' ∈ past, r'.duration = 0 then
            r.duration = elapsed window.openedAt r.time
          else r.duration ≤ r.time - d.now) := by
  intro steps steps'
  have one : List.Forall₂ SamePlain (cycles steps) (cycles steps') :=
    cycles_of_akin gaps (akin_of_forgetHistory same)
  have made (c : Channel) := reports_eq_iff gaps (plain_of_cycles one c)
  refine ⟨one, ⟨fun wholly c => (made c).mp (wholly.2 c), fun alike => ⟨?_, ?_⟩⟩, ?_⟩
  · refine outcomes_of_kinds (one.imp fun _ _ both => both.1) fun c => ?_
    rw [← closed_cycles, ← closed_cycles, (resumed gaps d c).2.2, (resumed gaps e c).2.2,
      (made c).mpr (alike c)]
  · exact fun c => (made c).mpr (alike c)
  · intro started forward c past r later split closed
    refine DeltaWindow.reaches_back (resumed gaps d c).2.1 (fun r member => ?_) split closed
    have order : d.now ≤ r.time := now_le_time forward r member
    refine ⟨order, fun zero => ?_⟩
    rw [zero] at order
    exact absurd (UInt64.lt_of_lt_of_le started order) (by decide)

/-- Two states that accepted different samples, and half a second later a cycle after a restart: it
makes a report on the accelerometer, and this reaches back to the sample before. -/
theorem restarted_after_different_samples :
    let start : Driver Sensor :=
      (performAll [.initialise, .setPollInterval 1000] (.new (.new .internal) .start {})).2
    let past (x : Int16) : Driver Sensor := (start.accept ⟨⟨x, 0, 2048⟩, 0, ⟨x, 0, 0⟩⟩).2
    let steps := afterRestart [500000] (past 1)
    (past 1).blank = (past 2).blank ∧
      List.Forall₂ SamePlain (cycles steps) (cycles (afterRestart [500000] (past 2))) ∧
      ∃ r, reports .accel steps = [r] ∧ r.duration ≠ 0 ∧
        r.duration = elapsed (past 1).streams.accel.window.openedAt r.time := by
  intro start past steps
  have same : (past 1).blank = (past 2).blank := by rw [blank_accept, blank_accept]
  obtain ⟨one, -, reach⟩ := restart_keeps_filters_and_windows same [500000]
  have forward : steps.all (fun s => decide (s.before.now ≤ s.after.now)) = true := by
    decide +kernel
  have primed : (past 1).streams.accel.window.lastTime ≠ 0 := by decide +kernel
  have durations : (reports .accel steps).map (·.duration) = [500000] := by decide +kernel
  obtain ⟨r, made, duration⟩ := List.map_eq_singleton_iff.mp durations
  have closed : r.duration ≠ 0 := by
    rw [duration]
    decide
  have length := reach (by decide +kernel)
    (fun s member => of_decide_eq_true (List.all_eq_true.mp forward s member))
    .accel [] r [] made closed
  rw [if_pos ⟨primed, nofun⟩] at length
  exact ⟨same, one, r, made, closed, length⟩

/-- Two states that differ in one sample of the past alone make different reports after a restart;
and after a restart, a millisecond after the last cycle of a new sensor, a window closes that extends
over more time than has gone by since. -/
theorem past_shows_after_restart :
    let start : Driver Sensor :=
      (performAll [.initialise, .setPollInterval 1000] (.new (.new .internal) .start {})).2
    let past (x : Int16) : Driver Sensor := (start.accept ⟨⟨x, 0, 2048⟩, 0, ⟨x, 0, 0⟩⟩).2
    let made (x : Int16) := reports .accel (afterRestart [1000000] (past x))
    let sampled := (performAll [.measure, .wait 1000] start).2
    (past 1).blank = (past 2).blank ∧
      (made 1).map (·.filtered.y) ≠ (made 2).map (·.filtered.y) ∧
      (made 1).map (·.change.y) ≠ (made 2).map (·.change.y) ∧
      (reports .accel (afterRestart [1000000] sampled)).map (·.duration) = [1001000] := by
  intro start past made sampled
  refine ⟨?_, by decide +kernel, by decide +kernel, by decide +kernel⟩
  rw [blank_accept, blank_accept]

end Driver

end InertialSensor
