import InertialSensor.Proofs.Driver.Reports
import InertialSensor.Proofs.Driver.Switches
import InertialSensor.Simulation.Sensor

/-!
# Dropped repeats

A cycle that fetches its block examines whether it repeats the last one. What the guard keeps is the
last examination (`Passage.guard_of_examined`), and nothing but an examination or forgetting the
history changes it (`Step.guard_of_plain`). So each examination is decided by the one before it, and
a block is dropped exactly if it repeats a block that was not dropped itself.

A guard that was cleared keeps six zero bytes that were never seen, and the first block after it is
held against them. That the law holds for the first block too is therefore the same as that its
accel bytes are not all zero (`repeats_dropped`).
-/

namespace InertialSensor

/-- What came of examining a block. -/
structure Examination where
  /-- The accel bytes of the block. -/
  bytes : Vector UInt8 6
  dropped : Bool
deriving DecidableEq

namespace Examination

/-- What the guard keeps of an examination. -/
def guard (e : Examination) : RepeatGuard := ⟨e.bytes, e.dropped⟩

/-- The guard decides to drop what repeats the bytes it keeps, unless it has dropped them before. -/
def DecidedBy (g : RepeatGuard) (e : Examination) : Prop :=
  e.dropped = true ↔ e.bytes = g.last ∧ g.dropped = false

lemma DecidedBy.dropped_iff {g : RepeatGuard} {e : Examination} (decided : e.DecidedBy g) :
    e.dropped = true ↔ e.bytes = g.last ∧ g.dropped = false := decided

/-- The block has the bytes of the last one before it, which was not dropped. -/
def Repeats (earlier : List Examination) (e : Examination) : Prop :=
  ∃ last, earlier.getLast? = some last ∧ last.bytes = e.bytes ∧ last.dropped = false

end Examination

lemma RepeatGuard.examine_snd (bytes : Vector UInt8 6) (g : RepeatGuard) :
    (g.examine bytes).2 = ⟨bytes, (g.examine bytes).1⟩ := by
  unfold examine
  split
  · next same => rw [same.2]
  · rfl

lemma RepeatGuard.examine_fst (bytes : Vector UInt8 6) (g : RepeatGuard) :
    (g.examine bytes).1 = true ↔ bytes = g.last ∧ g.dropped = false := by
  unfold examine
  split
  · next same => exact iff_of_true rfl same.symm
  · next differs => exact iff_of_false Bool.false_ne_true fun same => differs same.symm

/-- The outcome of a cycle whose sample was dropped as a repeat. -/
def isDuplicate : Except Failure Cycle → Bool
  | .ok .duplicate => true
  | _ => false

/-! ### Cycles -/

namespace Passage

open Driver

variable {σ : Type} [Transport σ] {p : Passage σ} {e : Examination}

/-- The block that the cycle fetched. -/
def block? (p : Passage σ) : Option (Vector UInt8 blockSize) :=
  if p.before.isSuspended then none else (opening p.before).1.toOption

/-- The examination of the block that the cycle fetched. -/
def examination? (p : Passage σ) : Option Examination :=
  p.block?.map fun block => ⟨Sample.accelBytes block, isDuplicate p.outcome⟩

/-- The ways a cycle can go, as far as its block is concerned. -/
inductive Examining (p : Passage σ) : Prop where
  | nothing (unfetched : p.block? = none) (same : p.after.guard = p.before.guard)
  | digested {block : Vector UInt8 blockSize} {d : Driver σ} (fetched : p.block? = some block)
      (same : d.guard = p.before.guard) (digested : Digestion block d p.outcome p.after)

lemma examining (p : Passage σ) : Examining p := by
  have guard {d d' : Driver σ} (same : d'.interior = d.interior) : d'.guard = d.guard :=
    congrArg (·.processing.guard) same
  cases suspended : p.before.isSuspended with
  | true =>
    refine .nothing (by rw [block?, suspended, if_pos rfl]) ?_
    rw [after, measure_of_suspended suspended]
  | false =>
    have unsuspended : p.block? = (opening p.before).1.toOption := by
      rw [block?, suspended]
      rfl
    have opened := (Opening.of_opening p.before).interior
    rcases result : opening p.before with ⟨cause | block, d⟩
    · rw [result] at opened
      refine .nothing (by rw [unsuspended, result]; rfl) ?_
      rw [after, measure_of_broken suspended result, guard opened]
    · rw [result] at opened
      obtain ⟨d', verified, digested⟩ := measure_of_opened suspended result
      have same : d'.interior = d.interior := by
        split at verified
        · exact verified.interior
        · rw [verified]
      refine .digested (by rw [unsuspended, result]; rfl) (guard (same.trans opened)) ?_
      rw [outcome, after, digested]
      exact .of_digest block d'

lemma guard_of_unexamined (unexamined : p.examination? = none) :
    p.after.guard = p.before.guard := by
  cases p.examining with
  | nothing _ same => exact same
  | digested fetched => simp [examination?, fetched] at unexamined

/-- What a cycle examined is decided by the guard and kept by it. -/
lemma guard_of_examined (examined : p.examination? = some e) :
    p.after.guard = e.guard ∧ e.DecidedBy p.before.guard := by
  cases p.examining with
  | nothing unfetched => simp [examination?, unfetched] at examined
  | @digested block d fetched same digested =>
    suffices h : p.after.guard = (d.guard.examine (Sample.accelBytes block)).2 ∧
        isDuplicate p.outcome = (d.guard.examine (Sample.accelBytes block)).1 by
      obtain ⟨kept, decided⟩ := h
      have found : e = ⟨Sample.accelBytes block, isDuplicate p.outcome⟩ := by
        rw [examination?, fetched] at examined
        exact (Option.some.inj examined).symm
      subst found
      rw [kept, RepeatGuard.examine_snd, ← same, Examination.DecidedBy, decided]
      exact ⟨rfl, RepeatGuard.examine_fst ..⟩
    generalize p.outcome = outcome at digested
    generalize p.after = after at digested
    cases digested with
    | repeated _ _ examined | empty _ _ examined | withheld _ _ examined
    | accepted _ _ _ _ _ _ _ examined =>
      rw [examined]
      exact ⟨rfl, rfl⟩

/-- An empty block is dropped, or ends its cycle with an error. -/
lemma outcome_of_zero {block : Vector UInt8 blockSize} (fetched : p.block? = some block)
    (zero : (Sample.ofBlock block).isZero = true) :
    p.outcome = .ok .duplicate ∨ p.outcome = .error .zeroSample := by
  cases p.examining with
  | nothing unfetched => cases unfetched.symm.trans fetched
  | digested fetched' same digested =>
    cases fetched.symm.trans fetched'
    generalize p.outcome = outcome at digested ⊢
    generalize p.after = after at digested
    cases digested with
    | repeated => exact .inl rfl
    | empty => exact .inr rfl
    | withheld _ _ _ nonzero | accepted _ _ _ _ _ _ _ _ nonzero => exact absurd zero nonzero

end Passage

namespace Driver

open Routine Simulation

variable {σ : Type} [Transport σ]

/-! ### Steps -/

omit [Transport σ] in
/-- What is remembered of the last block has nothing to do with the streams. -/
lemma guard_apart : Apart Processing.guard := fun _ _ => rfl

namespace Step

/-- The examination in the cycle within the step. -/
def examination? (s : Step σ) : Option Examination := s.passage?.bind Passage.examination?

/-- Around its cycle, a step leaves the guard alone. -/
lemma guard_around {s : Step σ} {p : Passage σ} (within : s.passage? = some p) :
    p.before.guard = s.before.guard ∧ s.after.guard = p.after.guard := by
  obtain ⟨streams, before⟩ := before_of_passage? within
  refine ⟨by rw [before], ?_⟩
  obtain ⟨op, d⟩ := s
  cases op with
  | measure =>
    cases within
    exact congrArg Driver.guard (answered measure .cycle d).1
  | read c max =>
    obtain ⟨⟨some, onDemand⟩, rfl⟩ := passage?_read_eq_some_iff.mp within
    rw [after, perform, (answered ..).1, read_of_demand c some onDemand]
    exact Leaves.after (fun _ => guard_apart.countedTake c max) measure _
  | selfTest c =>
    obtain ⟨fresh, rfl⟩ := passage?_selfTest_eq_some_iff.mp within
    have same := interior_selfTest c d
    rw [if_pos fresh] at same
    exact congrArg (·.processing.guard) same
  | _ => cases within

/-- A step without a cycle leaves the guard alone, unless the history is forgotten. -/
lemma guard_of_plain {s : Step σ} (without : s.passage? = none)
    (plain : s.operation ≠ .forgetHistory) : s.after.guard = s.before.guard := by
  obtain ⟨op, d⟩ := s
  have left {α : Type} {x : Routine σ α} {f : α → Answer} (hx : Leaves (·.guard) x) :
      ((do pure (f (← x)) : Routine σ Answer) d).2.guard = d.guard :=
    (congrArg Driver.guard (answered x f d).1).trans (hx d)
  have given {α : Type} {x : Routine σ α} (hx : Leaves processing x) : Leaves (·.guard) x :=
    hx.comp Processing.guard
  cases op with
  | initialise => exact left (given initialise_leaves)
  | probe => exact left (given (leaves_processing probe_leaves))
  | reset => exact left (given reset_leaves)
  | measure => cases without
  | read c max =>
    by_cases nothing : max = 0
    · subst nothing
      rw [after, perform, read_zero]
      exact left (.fail _)
    · have polled : d.pollInterval ≠ 0 := fun onDemand =>
        passage?_read_eq_none_iff.mp without ⟨nothing, onDemand⟩
      rw [after, perform, (answered ..).1, read_of_polled c nothing polled]
      exact guard_apart.countedTake c max d
  | selfTest c =>
    have sampled : d.stats.cycles ≠ 0 := passage?_selfTest_eq_none_iff.mp without
    have same := interior_selfTest c d
    rw [if_neg sampled] at same
    exact congrArg (·.processing.guard) same
  | setPollInterval us =>
    refine left (.bind (.update fun _ => rfl) fun _ => ?_)
    split
    · exact .pure _
    · refine .bind (.update fun _ => rfl) fun _ => .bind .look fun _ => ?_
      exact given (programOnChipFilter_leaves _)
  | setLowPass c hz => exact left (guard_apart.setLowPass c hz)
  | setSampleRate hz =>
    exact left (.bind (given (programRate_leaves hz)) fun _ => .update fun _ => rfl)
  | setFullScale g => exact left (given (programFullScale_leaves g))
  | setQueueDepth c depth => exact left (guard_apart.setQueueDepth c depth)
  | setCalibration c calibration => exact left (guard_apart.setCalibration c calibration)
  | forgetHistory => exact absurd rfl plain
  | setMuted muted => exact left (.update fun _ => rfl)
  | dumpRegisters => exact left (given (leaves_processing (readAll_leaves _)))
  | provokeSlowRead =>
    rw [after, perform, (answered ..).1]
    exact congrArg (·.processing.guard) (provokeSlowRead_interior d)
  | summarise => exact left (given (leaves_processing summarise_leaves))
  | wait us => exact left (given (pause_leaves us))

end Step

/-! ### Runs -/

/-- What the cycles of a run examined, in order. -/
def examinations (steps : List (Step σ)) : List Examination :=
  (cycles steps).filterMap Passage.examination?

lemma examinations_cons (s : Step σ) (steps : List (Step σ)) :
    examinations (s :: steps) = s.examination?.toList ++ examinations steps := by
  rw [examinations, cycles_cons, Step.examination?]
  cases s.passage? with
  | none => rfl
  | some p =>
    simp only [Option.toList_some, List.singleton_append, Option.bind_some, List.filterMap_cons]
    cases p.examination? with
    | none => rfl
    | some e => rfl

/-- What a step examined is decided by the guard and kept by it; nothing else changes the guard. -/
lemma Step.guard_after {s : Step σ} (plain : s.operation ≠ .forgetHistory) :
    (s.examination? = none ∧ s.after.guard = s.before.guard) ∨
      ∃ e, s.examination? = some e ∧ e.DecidedBy s.before.guard ∧ s.after.guard = e.guard := by
  rw [Step.examination?]
  cases within : s.passage? with
  | none => exact .inl ⟨rfl, guard_of_plain within plain⟩
  | some p =>
    obtain ⟨before, after⟩ := guard_around within
    rw [Option.bind_some]
    cases examined : p.examination? with
    | none =>
      exact .inl ⟨rfl, after.trans ((Passage.guard_of_unexamined examined).trans before)⟩
    | some e =>
      obtain ⟨kept, decided⟩ := Passage.guard_of_examined examined
      exact .inr ⟨e, rfl, before ▸ decided, after.trans kept⟩

/-- Until the history is forgotten, each examination is decided by the one before it, and the first
one by the guard that the run starts with. -/
lemma examinations_decided {ops : List Operation} (kept : .forgetHistory ∉ ops) (d : Driver σ) :
    (∀ e ∈ (examinations (history ops d)).head?, e.DecidedBy d.guard) ∧
      (examinations (history ops d)).IsChain fun e e' => e'.DecidedBy e.guard := by
  induction ops generalizing d with
  | nil => exact ⟨nofun, .nil⟩
  | cons op ops ih =>
    obtain ⟨first, others⟩ := not_or.mp (List.mem_cons.not.mp kept)
    obtain ⟨head, chain⟩ := ih others (perform op d).2
    rw [history, examinations_cons]
    rcases Step.guard_after (s := ⟨op, d⟩) (Ne.symm first) with
      ⟨nothing, same⟩ | ⟨e, examined, decided, kept⟩
    · rw [nothing]
      exact ⟨fun e member => same ▸ head e member, chain⟩
    · rw [examined]
      refine ⟨fun e' member => ?_, List.isChain_cons.mpr ⟨fun e' member => ?_, chain⟩⟩
      · cases member
        exact decided
      · exact kept ▸ head e' member

/-- The states in which the guard was just cleared: that of a new driver, and those in which the
history was just forgotten. -/
inductive Cleared : Driver σ → Prop where
  | new (bus : σ) (clock : Clock) (config : Configuration) : Cleared (.new bus clock config)
  | forgotten (d : Driver σ) : Cleared (perform .forgetHistory d).2

lemma Cleared.guard {d : Driver σ} (cleared : Cleared d) : d.guard = {} := by
  cases cleared with
  | new => rfl
  | forgotten => rfl

/-! ### The law of repeats -/

/-- A block that comes after another one is dropped exactly if it repeats it. -/
lemma dropped_iff_repeats {examined earlier later : List Examination} {e : Examination}
    (chain : examined.IsChain fun e e' => e'.DecidedBy e.guard)
    (split : examined = earlier ++ e :: later) (followed : earlier ≠ []) :
    e.dropped = true ↔ e.Repeats earlier := by
  obtain ⟨last, ends⟩ := Option.ne_none_iff_exists'.mp (List.getLast?_eq_none_iff.not.mpr followed)
  rw [split] at chain
  obtain ⟨-, -, meet⟩ := List.isChain_append.mp chain
  have decided : e.DecidedBy last.guard := meet last ends e rfl
  rw [decided.dropped_iff, Examination.Repeats, ends]
  constructor
  · rintro ⟨same, undropped⟩
    exact ⟨last, rfl, same.symm, undropped⟩
  · rintro ⟨_, found, same, undropped⟩
    cases found
    exact ⟨same.symm, undropped⟩

/-- Which repeats are dropped. In every run since the guard was cleared, whatever is asked of the
driver and whatever the bus does, of the blocks that were examined one after the other:

* the law that a block is dropped exactly if there was one before it with the same accel bytes that
  was not dropped itself holds for all of them if and only if the accel bytes of the first are not
  all zero;
* it holds for every block but the first, and the first is dropped exactly if its accel bytes are
  all zero;
* no two in a row are dropped;
* of a constant signal every other one is dropped;
* one that is empty is dropped or ends its cycle with an error. -/
theorem repeats_dropped {d : Driver σ} (cleared : Cleared d) {ops : List Operation}
    (kept : .forgetHistory ∉ ops) :
    let steps := history ops d
    let examined := examinations steps
    ((∀ earlier e later, examined = earlier ++ e :: later →
        (e.dropped = true ↔ e.Repeats earlier)) ↔
      ∀ e, examined.head? = some e → e.bytes ≠ Vector.replicate 6 0) ∧
    (∀ earlier e later, examined = earlier ++ e :: later → earlier ≠ [] →
      (e.dropped = true ↔ e.Repeats earlier)) ∧
    (∀ e, examined.head? = some e → (e.dropped = true ↔ e.bytes = Vector.replicate 6 0)) ∧
    (examined.IsChain fun e e' => ¬(e.dropped = true ∧ e'.dropped = true)) ∧
    ((∀ e ∈ examined, ∀ e' ∈ examined, e.bytes = e'.bytes) →
      examined.IsChain fun e e' => e'.dropped = !e.dropped) ∧
    ∀ p ∈ cycles steps, ∀ block, p.block? = some block → (Sample.ofBlock block).isZero = true →
      p.outcome = .ok .duplicate ∨ p.outcome = .error .zeroSample := by
  intro steps examined
  obtain ⟨head, chain⟩ := examinations_decided kept d
  rw [cleared.guard] at head
  have law (earlier) (e : Examination) (later) (split : examined = earlier ++ e :: later)
      (followed : earlier ≠ []) : e.dropped = true ↔ e.Repeats earlier :=
    dropped_iff_repeats chain split followed
  have first (e) (begins : examined.head? = some e) :
      e.dropped = true ↔ e.bytes = Vector.replicate 6 0 := by
    have decided : e.DecidedBy {} := head e begins
    rw [decided.dropped_iff]
    exact and_iff_left rfl
  refine ⟨⟨fun lawful e begins => ?_, fun nonzero earlier e later split => ?_⟩, law, first,
    chain.imp fun e e' decided both => ?_, fun constant => ?_, fun p _ block fetched zero =>
      p.outcome_of_zero fetched zero⟩
  · obtain ⟨later, split⟩ := List.head?_eq_some_iff.mp begins
    rw [Ne, ← first e begins, lawful [] e later split]
    rintro ⟨last, ends, -⟩
    cases ends
  · by_cases followed : earlier = []
    · subst followed
      have begins : examined.head? = some e := by rw [split]; rfl
      rw [first e begins]
      refine iff_of_false (nonzero e begins) ?_
      rintro ⟨last, ends, -⟩
      cases ends
    · exact law earlier e later split followed
  · obtain ⟨-, undropped⟩ := decided.dropped_iff.mp both.2
    cases undropped.symm.trans both.1
  · refine List.IsChain.imp_of_mem_imp (fun e e' member member' decided => ?_) chain
    have same : e'.bytes = e.guard.last := constant e' member' e member
    rw [Bool.eq_iff_iff, decided.dropped_iff]
    simp [same, Examination.guard]

/-- A new driver whose sensor delivers one sample three times drops the second. -/
theorem repeats_dropped_over_constant_sensor :
    let sample : Sample := ⟨⟨100, 200, 4096⟩, 1634, ⟨1, 2, 3⟩⟩
    let bytes : Vector UInt8 6 := #v[0, 100, 0, 200, 16, 0]
    let sensor := { Sensor.new .internal with script := [sample, sample, sample] }
    let start : Driver Sensor := .new sensor .start {}
    let steps := history [.initialise, .measure, .measure, .measure] start
    examinations steps = [⟨bytes, false⟩, ⟨bytes, true⟩, ⟨bytes, false⟩] ∧
      ∀ earlier e later, examinations steps = earlier ++ e :: later →
        (e.dropped = true ↔ e.Repeats earlier) := by
  intro sample bytes sensor start steps
  have examined : examinations steps = [⟨bytes, false⟩, ⟨bytes, true⟩, ⟨bytes, false⟩] := by
    decide +kernel
  have kept : Operation.forgetHistory ∉ [.initialise, .measure, .measure, .measure] := by simp
  obtain ⟨lawful, -⟩ := repeats_dropped (.new sensor .start {}) kept
  refine ⟨examined, lawful.mpr fun e begins => ?_⟩
  rw [examined] at begins
  cases begins
  decide

/-- The first block of a new driver is dropped as a repeat if it is empty, although there was none
before it. -/
theorem first_block_dropped :
    let start : Driver Sensor := .new { Sensor.new .internal with zeroSamples := 1 } .start {}
    let steps := history [.initialise, .measure] start
    (∃ p block, cycles steps = [p] ∧ p.block? = some block ∧
      (Sample.ofBlock block).isZero = true ∧ isDuplicate p.outcome = true) ∧
      ¬∀ earlier e later, examinations steps = earlier ++ e :: later →
        (e.dropped = true ↔ e.Repeats earlier) := by
  intro start steps
  let p : Passage Sensor := ⟨(performAll [.initialise] start).2⟩
  have examined : examinations steps = [⟨.replicate 6 0, true⟩] := by decide +kernel
  have empty : p.block?.any (fun block => (Sample.ofBlock block).isZero) = true := by
    decide +kernel
  refine ⟨?_, fun law => ?_⟩
  · obtain ⟨block, fetched, zero⟩ := Option.any_eq_true _ _ |>.mp empty
    exact ⟨p, block, rfl, fetched, zero, by decide +kernel⟩
  · obtain ⟨last, ends, -⟩ := (law [] _ [] examined).mp rfl
    cases ends

end Driver

end InertialSensor
