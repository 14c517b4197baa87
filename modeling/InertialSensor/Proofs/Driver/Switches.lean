import InertialSensor.Proofs.Driver.Frame

/-!
# The switches of a driver

Two parts of the state are changed by one request each: the polling interval, and the mark that a
factory test is running. Nothing else changes them.

What is done to unread reports and to single streams concerns no part that is `Apart` from the
streams, be it a switch or what is remembered of the last block.
-/

namespace InertialSensor

namespace Driver

open Routine

variable {σ : Type}

/-! ### Parts apart from the streams -/

/-- A part of the processing of samples that says nothing of the streams. -/
def Apart {γ : Type} (part : Processing → γ) : Prop :=
  ∀ p streams, part { p with streams := streams } = part p

namespace Apart

variable {γ : Type} {part : Processing → γ} (apart : Apart part)

include apart

lemma updateStream (c : Channel) (f : Stream → Stream) :
    Leaves (part ∘ processing) (updateStream c f : Routine σ Unit) :=
  .update fun d => apart d.processing _

lemma countedTake (c : Channel) (max : Nat) :
    Leaves (part ∘ processing) (countedTake (σ := σ) c max) := by
  refine .bind (.update fun _ => rfl) fun _ => ?_
  refine .bind (fun d => apart d.processing _) fun reports => ?_
  split
  · exact .fail _
  · exact .pure _

lemma setQueueDepth (c : Channel) (depth : Nat) :
    Leaves (part ∘ processing) (setQueueDepth (σ := σ) c depth) := by
  refine .bind .look fun d => ?_
  split
  · exact apart.updateStream _ _
  · exact .fail _

lemma setCalibration (c : Channel) (calibration : Calibration) :
    Leaves (part ∘ processing) (setCalibration (σ := σ) c calibration) := by
  unfold Driver.setCalibration
  split
  · exact .fail _
  · exact apart.updateStream _ _

lemma setLowPass [Transport σ] (c : Channel) (hz : Float32) :
    Leaves (part ∘ processing) (setLowPass (σ := σ) c hz) := by
  unfold Driver.setLowPass
  split
  · exact .fail _
  · refine .bind ((programOnChipFilter_leaves _).comp part) fun _ => .bind .look fun _ => ?_
    exact .bind (apart.updateStream _ _) fun _ => .update fun _ => rfl

end Apart

/-! ### The switches -/

/-- The parts of the state that are changed by one request each. -/
structure Switches where
  pollInterval : UInt64
  inFactoryTest : Bool

def Processing.switches (p : Processing) : Switches := ⟨p.pollInterval, p.inFactoryTest⟩

def switches (d : Driver σ) : Switches := ⟨d.pollInterval, d.inFactoryTest⟩

/-- What leaves the processing of samples leaves the switches. -/
lemma leaves_switches {α : Type} {x : Routine σ α} (hx : Leaves processing x) : Leaves switches x :=
  hx.comp Processing.switches

/-- What leaves the whole interior leaves the switches. -/
lemma untouched_switches {α : Type} {x : Routine σ α} (hx : Leaves interior x) :
    Leaves switches x :=
  leaves_switches (leaves_processing hx)

lemma switches_apart : Apart Processing.switches := fun _ _ => rfl

variable [Transport σ]

/-! ### Cycles and reading -/

lemma measure_switches : Leaves switches (measure (σ := σ)) := by
  intro d
  refine (Course.of_measure d).keeps (I := fun d' => d'.switches = d.switches) ?_ ?_ ?_ ?_ ?_ rfl
  · intro _ _ _ restored h
    cases restored with | notDue | failed | done => exact h
  · exact fun h => h
  · intro _ _ _ fetched h
    cases fetched with | failed | fetched => exact h
  · intro _ _ verified h
    cases verified with | unread | right | reset | repair => exact h
  · intro _ _ _ _ digested h
    cases digested with | repeated | empty | withheld | accepted => exact h

lemma read_switches (c : Channel) (max : Nat) : Leaves switches (read (σ := σ) c max) := by
  intro d
  by_cases nothing : max = 0
  · rw [nothing, read_zero]
    rfl
  · by_cases onDemand : d.pollInterval = 0
    · rw [read_of_demand c nothing onDemand]
      exact measure_switches.bind (fun _ => switches_apart.countedTake c max) _
    · rw [read_of_polled c nothing onDemand]
      exact switches_apart.countedTake c max d

lemma ensureSampled_switches : Leaves switches (ensureSampled (σ := σ)) := by
  have verdict : Leaves switches (do
      let d ← look (σ := σ)
      pure (decide (0 < d.stats.cycles))) := .bind .look fun _ => .pure _
  refine .bind .look fun d => ?_
  split
  · refine .bind (.attempt measure_switches) fun result => ?_
    split
    · exact verdict
    · exact .bind (untouched_switches (note_leaves _)) fun _ => verdict
  · exact verdict

lemma selfTest_switches (c : Channel) : Leaves switches (selfTest (σ := σ) c) :=
  .bind ensureSampled_switches fun sampled => untouched_switches (verdict_leaves c sampled)

/-! ### Settings -/

lemma setPollInterval_inFactoryTest (us : UInt64) :
    Leaves (·.inFactoryTest) (setPollInterval (σ := σ) us) := by
  refine .bind (.update fun _ => rfl) fun _ => ?_
  split
  · exact .pure _
  · refine .bind (.update fun _ => rfl) fun _ => .bind .look fun _ => ?_
    exact (programOnChipFilter_leaves _).comp Processing.inFactoryTest

/-! ### Operations -/

/-- The operation sets the polling interval. -/
def Operation.setsInterval : Operation → Bool
  | .setPollInterval _ => true
  | _ => false

/-- Only the operation made for it changes the polling interval, and no operation ends with the mark
of a factory test. -/
lemma perform_switches (op : Operation) (h : op.setsInterval = false) (d : Driver σ)
    (idle : d.inFactoryTest = false) : (perform op d).2.switches = d.switches := by
  have answered {α : Type} {x : Routine σ α} {f : α → Answer} (hx : Leaves switches x) :
      ((do pure (f (← x)) : Routine σ Answer) d).2.switches = d.switches :=
    Leaves.bind hx (fun _ => .pure _) d
  cases op with
  | initialise => exact answered (leaves_switches initialise_leaves)
  | probe => exact answered (untouched_switches probe_leaves)
  | reset => exact answered (leaves_switches reset_leaves)
  | measure => exact answered measure_switches
  | read c max => exact answered (read_switches c max)
  | selfTest c => exact answered (selfTest_switches c)
  | setPollInterval => cases h
  | setLowPass c hz => exact answered (switches_apart.setLowPass c hz)
  | setSampleRate hz =>
    exact answered (.bind (leaves_switches (programRate_leaves hz)) fun _ => .update fun _ => rfl)
  | setFullScale g => exact answered (leaves_switches (programFullScale_leaves g))
  | setQueueDepth c depth => exact answered (switches_apart.setQueueDepth c depth)
  | setCalibration c calibration => exact answered (switches_apart.setCalibration c calibration)
  | forgetHistory => exact answered (.update fun _ => rfl)
  | setMuted muted => exact answered (.update fun _ => rfl)
  | dumpRegisters => exact answered (untouched_switches (readAll_leaves _))
  | provokeSlowRead =>
    have ended := congrArg (·.processing.switches) (provokeSlowRead_interior d)
    have same : ({ d with inFactoryTest := false } : Driver σ).switches = d.switches := by
      rw [switches, switches, ← idle]
    exact (Leaves.after (fun _ => .pure _) _ d).trans (ended.trans same)
  | summarise => exact answered (untouched_switches summarise_leaves)
  | wait us => exact answered (untouched_switches (delay_leaves us))

lemma perform_inFactoryTest (op : Operation) (d : Driver σ) (idle : d.inFactoryTest = false) :
    (perform op d).2.inFactoryTest = false := by
  cases sets : op.setsInterval with
  | false => exact (congrArg Switches.inFactoryTest (perform_switches op sets d idle)).trans idle
  | true =>
    cases op with
    | setPollInterval us =>
      exact (Leaves.bind (setPollInterval_inFactoryTest us) (fun _ => .pure _) d).trans idle
    | _ => cases sets

lemma performAll_inFactoryTest (ops : List Operation) {d : Driver σ}
    (idle : d.inFactoryTest = false) : (performAll ops d).2.inFactoryTest = false := by
  induction ops generalizing d with
  | nil => exact idle
  | cons op ops ih => exact ih (perform_inFactoryTest op d idle)

end Driver

end InertialSensor
