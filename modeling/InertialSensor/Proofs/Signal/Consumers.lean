import InertialSensor.Proofs.Signal.Streams
import InertialSensor.Proofs.Simulation.Glances

/-!
# Consumers do not disturb the measurement

From alike states a cycle comes to the same and makes the same reports (`Passage.alike`), and every
operation leads from alike states to alike ones (`perform_follows`). What a consumer asks for leaves
the state alike to the one it found (`Step.consumes`). So a run into which such requests are put
measures the same as the run without them; and if publication is switched in between too, what is
published are those of the same finished windows that finished while it was allowed.
-/

namespace InertialSensor

/-! ### Cycles from alike states -/

/-- The stream handles a sample the same whatever is unread. -/
lemma Stream.accept_of_bare {s t : Stream} (same : s.bare = t.bare) (conditions : Conditions)
    (scaling : Scaling) (temperature : Option DieTemperature) (raw : Axes Int16) :
    let made := s.accept conditions scaling temperature raw
    let made' := t.accept conditions scaling temperature raw
    made.1 = made'.1 ∧ made.2.1 = made'.2.1 ∧ made.2.2.bare = made'.2.2.bare := by
  obtain ⟨calibration, filters, window, backlog, closed⟩ := s
  obtain ⟨calibration', filters', window', backlog', closed'⟩ := t
  simp only [bare, mk.injEq] at same
  obtain ⟨rfl, rfl, rfl, -, rfl⟩ := same
  exact ⟨rfl, rfl, rfl⟩

namespace Driver

open Routine

variable {σ : Type} {hides : Bool} {alike : σ → σ → Prop}

/-- What one stream makes of a sample does not depend on what is unread. -/
lemma making_of_alike {d e : Driver σ} (h : Alike hides alike d e) (c : Channel)
    (sample : Sample) :
    (d.making c sample).1 = (e.making c sample).1 ∧
      (d.making c sample).2.1 = (e.making c sample).2.1 ∧
        (d.making c sample).2.2.bare = (e.making c sample).2.2.bare := by
  have scaling : d.scaling c = e.scaling c := by
    cases c with
    | accel => simp only [Driver.scaling, h.inForce]
    | gyro => simp only [Driver.scaling, h.inForce]
  rw [making, making, h.config, h.now, h.errors, scaling]
  exact Stream.accept_of_bare (h.bare c) ..

lemma core_accept (sample : Sample) (d : Driver σ) :
    (d.accept sample).2.core hides =
      { d.core hides with
        streams := ⟨(d.making .accel sample).2.2.bare, (d.making .gyro sample).2.2.bare⟩
        temperature := celsius sample.temperature } := by
  rw [accept]
  simp only [publish]
  split
  · split
    · rfl
    · rfl
  · split
    · rfl
    · rfl

/-- The states are alike, and if the cycle that led to them sampled, it made the same reports. -/
def AlikeReports (hides : Bool) (alike : σ → σ → Prop) (outcome : Except Failure Cycle)
    (d e : Driver σ) : Prop :=
  Alike hides alike d e ∧ (isSampled outcome = true → ∀ c,
    (d.streams.get c).backlog.items.getLast? = (e.streams.get c).backlog.items.getLast?)

/-- A cycle comes to the same from alike states, leaves them alike, and makes the same reports. -/
def Reproduces (hides : Bool) (alike : σ → σ → Prop) (x : Routine σ Cycle) : Prop :=
  Relates (Alike hides alike) (AlikeReports hides alike) x

lemma accept_reproduces (sample : Sample) :
    Reproduces hides alike fun d : Driver σ =>
      (.ok (.sampled (d.accept sample).1), (d.accept sample).2) := by
  intro d e h
  have made := making_of_alike h
  have closed (d : Driver σ) : (d.accept sample).1 =
      ⟨(d.making .accel sample).2.1, (d.making .gyro sample).2.1⟩ := rfl
  have bus (d : Driver σ) : (d.accept sample).2.bus = d.bus := by rw [accept_eq]
  refine ⟨?_, ⟨?_, ?_⟩, fun _ c => ?_⟩
  · have same : (d.accept sample).1 = (e.accept sample).1 := by
      rw [closed, closed, (made .accel sample).2.1, (made .gyro sample).2.1]
    exact congrArg (fun closed => (.ok (.sampled closed) : Except Failure Cycle)) same
  · change alike (d.accept sample).2.bus (e.accept sample).2.bus
    rw [bus, bus]
    exact h.bus
  · change (d.accept sample).2.core hides = (e.accept sample).2.core hides
    rw [core_accept, core_accept, h.core, (made .accel sample).2.2, (made .gyro sample).2.2]
  · change ((d.accept sample).2.streams.get c).backlog.items.getLast? =
      ((e.accept sample).2.streams.get c).backlog.items.getLast?
    rw [getLast?_accept, getLast?_accept, (made c sample).1]

variable [Transport σ] (transparent : Transparent alike)

include transparent

/-- Alike states are the same in what a cycle looks at. -/
lemma alike_coupling : Coupling (Alike (σ := σ) hides alike) where
  now h := h.now
  verifies h := by rw [h.config]
  inFactoryTest h := h.inFactoryTest
  watch h := h.watch
  guard h := h.guard
  read address speed buffer h :=
    have ⟨same, after⟩ := transparent.read address speed buffer h.bus
    ⟨same, after, h.core⟩
  write address value h :=
    have ⟨same, after⟩ := transparent.write address value h.bus
    ⟨same, after, h.core⟩
  setWatch watch h :=
    ⟨h.bus, congrArg (fun k : Driver Unit => { k with watch := watch }) h.core⟩
  setGuard guard h :=
    ⟨h.bus, congrArg (fun k : Driver Unit => { k with guard := guard }) h.core⟩
  note _ h := ⟨h.bus, h.core⟩
  count {_ _ f} counting h := by
    have core := congrArg (fun k : Driver Unit => { k with stats := f k.stats }) h.core
    cases counting with
    | cycle | bad | mismatch | good | duplicate => exact ⟨h.bus, core⟩

lemma measure_reproduces : Reproduces hides alike (measure (σ := σ)) :=
  (alike_coupling transparent).measure
    (fun unsampled h => ⟨h, fun sampled => absurd sampled (by rw [unsampled]; decide)⟩)
    accept_reproduces

lemma measure_likewise : Likewise hides alike (measure (σ := σ)) := fun d e h =>
  ⟨(measure_reproduces transparent d e h).1, (measure_reproduces transparent d e h).2.1⟩

/-! ### Operations on alike states -/

lemma ensureSampled_likewise : Likewise hides alike (ensureSampled (σ := σ)) := by
  have verdict : Likewise hides alike (do
      let d ← look (σ := σ)
      pure (decide (0 < d.stats.cycles))) :=
    .look_bind (fun h => by rw [h.cycles]) fun _ => .pure _
  refine .look_bind (fun h => by rw [h.cycles]) fun d => ?_
  split
  · refine .bind (.attempt (measure_likewise transparent)) fun result => ?_
    split
    · exact verdict
    · exact .bind (note_likewise _) fun _ => verdict
  · exact verdict

lemma selfTest_follows (c : Channel) : Follows hides alike (selfTest (σ := σ) c) :=
  .bind (ensureSampled_likewise transparent) fun sampled => .of_leaves (verdict_leaves c sampled)

lemma read_follows (c : Channel) (max : Nat) : Follows hides alike (read (σ := σ) c max) := by
  have taken : Follows hides alike (countedTake (σ := σ) c max) :=
    .of_leaves (countedTake_outline c max)
  unfold read
  split
  · exact .fail _
  · refine .look_bind (fun h => by rw [h.pollInterval]) fun d => ?_
    split
    · refine .bind (updateStream_likewise (f := Stream.flush) (fun _ => rfl) c) fun _ => ?_
      exact .bind (measure_likewise transparent) fun _ => taken
    · exact taken

/-- Every operation leads from alike states to alike ones. -/
lemma perform_follows (op : Operation) : Follows hides alike (perform (σ := σ) op) := by
  have answer {α : Type} {x : Routine σ α} {f : α → Answer} (hx : Follows hides alike x) :
      Follows hides alike (do pure (f (← x)) : Routine σ Answer) := by
    intro d e h
    rw [(answered x f d).1, (answered x f e).1]
    exact hx d e h
  cases op with
  | initialise => exact answer (initialise_likewise transparent).follows
  | probe => exact answer (probe_likewise transparent).follows
  | reset => exact answer (reset_likewise transparent).follows
  | measure => exact answer (measure_likewise transparent).follows
  | read c max => exact answer (read_follows transparent c max)
  | selfTest c => exact answer (selfTest_follows transparent c)
  | setPollInterval us => exact answer (setPollInterval_likewise transparent us).follows
  | setLowPass c hz => exact answer (setLowPass_likewise transparent c hz).follows
  | setSampleRate hz => exact answer (setSampleRate_likewise transparent hz).follows
  | setFullScale g => exact answer (programFullScale_likewise transparent g).follows
  | setQueueDepth c depth => exact answer (.of_leaves (setQueueDepth_outline c depth))
  | setCalibration c calibration => exact answer (setCalibration_likewise c calibration).follows
  | forgetHistory => exact answer forgetHistory_likewise.follows
  | setMuted muted => exact answer (setMuted_likewise muted).follows
  | dumpRegisters => exact answer (readAll_likewise transparent _).follows
  | provokeSlowRead => exact answer (provokeSlowRead_likewise transparent).follows
  | summarise => exact answer (summarise_follows transparent)
  | wait us => exact answer (delay_likewise us).follows

end Driver

/-! ### Cycles side by side -/

namespace Passage

open Driver

variable {σ : Type} [Transport σ]

/-- Two cycles come to the same and make the same reports; with `may` publication may be blocked for
one of them only. -/
structure Same (may : Bool) (p q : Passage σ) : Prop where
  outcome : p.outcome = q.outcome
  report : ∀ c, p.report? c = q.report? c
  muted : may = false → p.before.muted = q.before.muted

variable {hides : Bool} {alike : σ → σ → Prop} {p q : Passage σ}

lemma Same.of_alike (transparent : Transparent alike) (h : Alike hides alike p.before q.before) :
    Same hides p q := by
  obtain ⟨outcome, after, last⟩ := measure_reproduces transparent p.before q.before h
  have samples : p.samples = q.samples := congrArg isSampled outcome
  refine ⟨outcome, fun c => ?_, fun shown => ?_⟩
  · rw [report?, report?, ← samples]
    split
    · next sampled => exact last sampled c
    · rfl
  · subst shown
    exact congrArg (·.muted) h.core

end Passage

namespace Driver

open Routine

variable {σ : Type} {hides : Bool} {alike : σ → σ → Prop}

/-- From alike states an operation runs cycles that start alike, or none. -/
lemma Operation.passage?_of_alike {d e : Driver σ} (op : Operation) (h : Alike hides alike d e) :
    op.passage? d = none ∧ op.passage? e = none ∨
      ∃ p q, op.passage? d = some p ∧ op.passage? e = some q ∧ Alike hides alike p.before q.before := by
  cases op with
  | measure => exact .inr ⟨_, _, rfl, rfl, h⟩
  | read c max =>
    by_cases onDemand : max ≠ 0 ∧ d.pollInterval = 0
    · have onDemand' : max ≠ 0 ∧ e.pollInterval = 0 := h.pollInterval ▸ onDemand
      exact .inr ⟨_, _, if_pos onDemand, if_pos onDemand',
        (updateStream_likewise (f := Stream.flush) (fun _ => rfl) c d e h).2⟩
    · exact .inl ⟨if_neg onDemand, if_neg (h.pollInterval ▸ onDemand)⟩
  | selfTest c =>
    by_cases fresh : d.stats.cycles = 0
    · exact .inr ⟨_, _, if_pos fresh, if_pos (h.cycles ▸ fresh), h⟩
    · exact .inl ⟨if_neg fresh, if_neg (h.cycles ▸ fresh)⟩
  | _ => exact .inl ⟨rfl, rfl⟩

/-! ### Requests of consumers -/

/-- The request only looks, takes what is there, or changes the room for it: a summary, a dump of
the registers, a new depth of a backlog, or a read while cycles run by themselves. -/
def Step.consumes (s : Step σ) : Prop :=
  match s.operation with
  | .summarise | .dumpRegisters | .setQueueDepth .. => True
  | .read .. => s.before.pollInterval ≠ 0
  | _ => False

/-- Requests of consumers run no cycle. -/
lemma Step.passage?_of_consumes {s : Step σ} (consumes : s.consumes) : s.passage? = none := by
  obtain ⟨op, e⟩ := s
  cases op with
  | summarise | dumpRegisters | setQueueDepth => rfl
  | read c max => exact if_neg fun both => consumes both.2
  | _ => exact consumes.elim

variable [Transport σ]

/-- Requests of consumers leave no trace. -/
lemma Step.alike_of_consumes (transparent : Transparent alike) {d : Driver σ} {s : Step σ}
    (consumes : s.consumes) (h : Alike hides alike d s.before) : Alike hides alike d s.after := by
  obtain ⟨op, e⟩ := s
  have answer {α : Type} {x : Routine σ α} {f : α → Answer} (hx : Unseen hides alike x) :
      Alike hides alike d ((do pure (f (← x)) : Routine σ Answer) e).2 := by
    rw [(answered x f e).1]
    exact hx d e h
  cases op with
  | summarise => exact answer (summarise_unseen transparent)
  | dumpRegisters => exact answer (dumpRegisters_unseen transparent)
  | setQueueDepth c depth => exact answer (.of_leaves (setQueueDepth_outline c depth))
  | read c max =>
    have polled : e.pollInterval ≠ 0 := consumes
    rw [after, perform, (answered ..).1]
    by_cases nothing : max = 0
    · rw [nothing, read_zero]
      exact h
    · rw [read_of_polled c nothing polled]
      exact Unseen.of_leaves (countedTake_outline c max) d e h
  | _ => exact consumes.elim

/-- A run of operations from a state, and the operations that are left without some requests of
consumers and, with `may`, without some switchings of publication. -/
inductive Enriched (may : Bool) : Driver σ → List Operation → List Operation → Prop where
  | done (e : Driver σ) : Enriched may e [] []
  | keep {e : Driver σ} (op : Operation) {ops ops' : List Operation}
      (rest : Enriched may (perform op e).2 ops ops') : Enriched may e (op :: ops) (op :: ops')
  | consume {e : Driver σ} {op : Operation} {ops ops' : List Operation}
      (consumes : (⟨op, e⟩ : Step σ).consumes) (rest : Enriched may (perform op e).2 ops ops') :
      Enriched may e ops (op :: ops')
  | switch {e : Driver σ} (allowed : may = true) (muted : Bool) {ops ops' : List Operation}
      (rest : Enriched may (perform (.setMuted muted) e).2 ops ops') :
      Enriched may e ops (.setMuted muted :: ops')

/-- With and without these requests, runs from alike states go through the same cycles. -/
lemma Enriched.follows {may : Bool} (transparent : Transparent alike) {d e : Driver σ}
    {ops ops' : List Operation} (enriched : Enriched may e ops ops') (h : Alike may alike d e) :
    List.Forall₂ (Passage.Same may) (cycles (history ops d)) (cycles (history ops' e)) ∧
      Alike may alike (performAll ops d).2 (performAll ops' e).2 := by
  induction enriched generalizing d with
  | done => exact ⟨.nil, h⟩
  | @keep e op ops ops' _ ih =>
    obtain ⟨later, ends⟩ := ih (perform_follows transparent op d e h)
    refine ⟨?_, ends⟩
    rw [history, history, cycles_cons, cycles_cons]
    rcases op.passage?_of_alike h with ⟨without, without'⟩ | ⟨p, q, within, within', starts⟩
    · rw [Step.passage?, Step.passage?, without, without']
      exact later
    · rw [Step.passage?, Step.passage?, within, within']
      exact .cons (.of_alike transparent starts) later
  | @consume e op ops ops' consumes _ ih =>
    obtain ⟨later, ends⟩ := ih (Step.alike_of_consumes transparent consumes h)
    refine ⟨?_, ends⟩
    rw [history, cycles_cons, Step.passage?_of_consumes consumes]
    exact later
  | @switch e allowed muted ops ops' _ ih =>
    subst allowed
    obtain ⟨later, ends⟩ := ih (setMuted_unseen muted d e h)
    exact ⟨later, ends⟩

end Driver

end InertialSensor
