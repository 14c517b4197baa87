import InertialSensor.Proofs.Driver.Course

/-!
# What routines leave alone

With `x.Leaves part` it is said that the routine `x` leaves a part of the state as it is, whether it
succeeds or fails. Three parts serve for most routines. Transfers leave the whole `interior` of the
driver; giving settings to the chip, up to a whole bring-up, leaves the `processing` of samples; and
whatever is done to unread reports leaves the `setup`.
-/

namespace InertialSensor

namespace Routine

variable {σ α β γ δ : Type} {part : Driver σ → γ}

/-- A routine leaves a part of the state as it is, whether it succeeds or fails. -/
def Leaves (part : Driver σ → γ) (x : Routine σ α) : Prop := ∀ d, part (x d).2 = part d

namespace Leaves

lemma pure (a : α) : Leaves part (pure a : Routine σ α) := fun _ => rfl

lemma look : Leaves part (look : Routine σ (Driver σ)) := fun _ => rfl

lemma fail (e : Failure) : Leaves part (fail e : Routine σ α) := fun _ => rfl

lemma update {f : Driver σ → Driver σ} (h : ∀ d, part (f d) = part d) : Leaves part (update f) := h

lemma attempt {x : Routine σ α} (hx : Leaves part x) : Leaves part (attempt x) := hx

/-- What follows a routine leaves what the routine left. -/
lemma after {f : α → Routine σ β} (hf : ∀ a, Leaves part (f a)) (x : Routine σ α) (d : Driver σ) :
    part ((x >>= f) d).2 = part (x d).2 := by
  rw [bind_apply]
  generalize x d = r
  obtain ⟨_ | a, between⟩ := r
  · rfl
  · exact hf a between

lemma bind {x : Routine σ α} {f : α → Routine σ β} (hx : Leaves part x)
    (hf : ∀ a, Leaves part (f a)) : Leaves part (x >>= f) :=
  fun d => (after hf x d).trans (hx d)

/-- With a part, everything made of it is left. -/
lemma comp (g : γ → δ) {x : Routine σ α} (hx : Leaves part x) : Leaves (g ∘ part) x :=
  fun d => congrArg g (hx d)

end Leaves

end Routine

namespace Driver

open Routine

variable {σ : Type}

/-! ### Parts of the state -/

/-- What becomes of samples, and how they are processed. -/
structure Processing where
  guard : RepeatGuard
  streams : PerChannel Stream
  pollInterval : UInt64
  inFactoryTest : Bool
  muted : Bool
  temperature : Float32
  published : Array Publication
  logging : Bool

/-- What transfers do not work on: the settings, the values that registers should hold, and the
processing of samples. -/
structure Interior where
  config : Configuration
  inForce : InForce
  values : Vector UInt8 8
  processing : Processing

/-- The settings, the values that registers should hold, and of each stream the filters and the
window. -/
structure Setup where
  config : Configuration
  inForce : InForce
  values : Vector UInt8 8
  filters : PerChannel (Axes LowPass)
  windows : PerChannel DeltaWindow

def processing (d : Driver σ) : Processing where
  guard := d.guard
  streams := d.streams
  pollInterval := d.pollInterval
  inFactoryTest := d.inFactoryTest
  muted := d.muted
  temperature := d.temperature
  published := d.published
  logging := d.logging

def interior (d : Driver σ) : Interior where
  config := d.config
  inForce := d.inForce
  values := d.watch.shadow.values
  processing := d.processing

def Interior.setup (i : Interior) : Setup where
  config := i.config
  inForce := i.inForce
  values := i.values
  filters := i.processing.streams.map (·.filters)
  windows := i.processing.streams.map (·.window)

def setup (d : Driver σ) : Setup := d.interior.setup

@[simp] lemma filters_setup (c : Channel) (d : Driver σ) :
    d.setup.filters.get c = (d.streams.get c).filters := PerChannel.get_map ..

@[simp] lemma windows_setup (c : Channel) (d : Driver σ) :
    d.setup.windows.get c = (d.streams.get c).window := PerChannel.get_map ..

lemma leaves_setup {α : Type} {x : Routine σ α} (hx : Leaves interior x) : Leaves setup x :=
  hx.comp Interior.setup

lemma leaves_processing {α : Type} {x : Routine σ α} (hx : Leaves interior x) :
    Leaves processing x :=
  hx.comp Interior.processing

/-! ### Notes, time and counts -/

lemma note_leaves (e : Event) : Leaves interior (note e : Routine σ Unit) := .update fun _ => rfl

lemma delay_leaves (us : UInt64) : Leaves interior (delay us : Routine σ Unit) :=
  .update fun _ => rfl

lemma pause_leaves (us : UInt64) : Leaves processing (delay us : Routine σ Unit) :=
  leaves_processing (delay_leaves us)

lemma tally_leaves (f : Stats → Stats) : Leaves interior (tally f : Routine σ Unit) :=
  .update fun _ => rfl

/-! ### Unread reports and calibrations -/

/-- A change of one stream that concerns neither its filters nor its window. -/
lemma updateStream_leaves {f : Stream → Stream} (filters : ∀ s, (f s).filters = s.filters)
    (window : ∀ s, (f s).window = s.window) (c : Channel) :
    Leaves setup (updateStream c f : Routine σ Unit) := by
  intro d
  cases c with
  | accel => simp [setup, Interior.setup, interior, processing, updateStream, PerChannel.modify,
      PerChannel.map, filters, window]
  | gyro => simp [setup, Interior.setup, interior, processing, updateStream, PerChannel.modify,
      PerChannel.map, filters, window]

lemma takeReports_leaves (c : Channel) (max : Nat) :
    Leaves setup (takeReports (σ := σ) c max) := by
  intro d
  cases c with
  | accel => rfl
  | gyro => rfl

lemma countedTake_leaves (c : Channel) (max : Nat) :
    Leaves setup (countedTake (σ := σ) c max) := by
  refine .bind (leaves_setup (tally_leaves _)) fun _ => ?_
  refine .bind (takeReports_leaves c max) fun reports => ?_
  split
  · exact .fail _
  · exact .pure _

lemma setQueueDepth_leaves (c : Channel) (depth : Nat) :
    Leaves setup (setQueueDepth (σ := σ) c depth) := by
  refine .bind .look fun d => ?_
  split
  · refine updateStream_leaves ?_ ?_ c
    · exact fun _ => rfl
    · exact fun _ => rfl
  · exact .fail _

lemma setCalibration_leaves (c : Channel) (calibration : Calibration) :
    Leaves setup (setCalibration (σ := σ) c calibration) := by
  unfold setCalibration
  split
  · exact .fail _
  · refine updateStream_leaves ?_ ?_ c
    · exact fun _ => rfl
    · exact fun _ => rfl

/-- The verdict of a self test changes nothing. -/
lemma verdict_leaves {γ : Type} {part : Driver σ → γ} (c : Channel) (sampled : Bool) :
    Leaves part (if sampled = true then do
        let d ← look (σ := σ)
        match c with
        | .accel => pure d.streams.accel.calibration.accelPasses
        | .gyro => pure d.streams.gyro.calibration.gyroPasses
      else pure false) := by
  split
  · refine .bind .look fun d => ?_
    cases c with
    | accel => exact .pure _
    | gyro => exact .pure _
  · exact .pure _

/-! ### Register access -/

variable [Transport σ]

lemma readInto_leaves (n : Nat) (address : UInt8) (speed : Speed) :
    Leaves interior (readInto (σ := σ) n address speed) := fun _ => rfl

lemma readExactly_leaves (n : Nat) (address : UInt8) (speed : Speed) :
    Leaves interior (readExactly (σ := σ) n address speed) := by
  refine .bind (readInto_leaves n address speed) fun reading => ?_
  split
  · exact .pure _
  · exact .fail _

lemma readRegister_leaves (address : UInt8) (speed : Speed) :
    Leaves interior (readRegister (σ := σ) address speed) :=
  .bind (readExactly_leaves 1 address speed) fun _ => .pure _

lemma writeRaw_leaves (address value : UInt8) :
    Leaves interior (writeRaw (σ := σ) address value) := fun _ => rfl

lemma writeChecked_leaves (address value : UInt8) :
    Leaves processing (writeChecked (σ := σ) address value) :=
  .bind (leaves_processing (writeRaw_leaves address value)) fun _ => .update fun _ => rfl

/-! ### Stages of a cycle -/

lemma Restoration.interior {d d' : Driver σ} {result : Except Failure Unit}
    (restored : Restoration d result d') : d'.interior = d.interior := by
  cases restored with
  | notDue | failed | done => rfl

lemma Fetching.interior {d d' : Driver σ} {result : Except Failure (Vector UInt8 blockSize)}
    (fetched : Fetching d.countedCycle result d') : d'.interior = d.interior := by
  cases fetched with
  | failed | fetched => rfl

lemma Opening.interior {d d' : Driver σ} {result : Except Failure (Vector UInt8 blockSize)}
    (opened : Opening d result d') : d'.interior = d.interior := by
  cases opened with
  | asleep restored => exact restored.interior
  | lost restored fetched | fetched restored fetched =>
    exact fetched.interior.trans restored.interior

lemma Verification.interior {d d' : Driver σ} (verified : Verification d d') :
    d'.interior = d.interior := by
  cases verified with
  | unread | right | reset | repair => rfl

/-! ### Giving settings to the chip -/

/-- A setting is given to the chip and then taken over, or neither. -/
lemma program_cases (address value : UInt8) (takeOver : Driver σ → Driver σ) (d : Driver σ) :
    (∃ text, (do writeChecked address value; update takeOver) d =
        (.error (.bus text), { d with bus := (Transport.write address value d.bus).2 })) ∨
      (do writeChecked address value; update takeOver) d =
        (.ok (), takeOver
          { d with
            bus := (Transport.write address value d.bus).2
            watch := d.watch.record address value }) := by
  cases h : (Transport.write address value d.bus).1 with
  | error text => exact .inl ⟨text, bind_of_error _ (writeChecked_of_error h)⟩
  | ok => exact .inr (bind_of_ok _ (writeChecked_of_ok h))

lemma programRate_leaves (hz : Nat) : Leaves processing (programRate (σ := σ) hz) :=
  .bind (writeChecked_leaves _ _) fun _ => .update fun _ => rfl

lemma programOnChipFilter_leaves (hz : Nat) :
    Leaves processing (programOnChipFilter (σ := σ) hz) :=
  .bind (writeChecked_leaves _ _) fun _ => .update fun _ => rfl

lemma programFullScale_leaves (g : Nat) : Leaves processing (programFullScale (σ := σ) g) :=
  .bind (writeChecked_leaves _ _) fun _ => .update fun _ => rfl

/-! ### Bring-up -/

lemma probe_leaves : Leaves interior (probe (σ := σ)) := by
  refine .bind (readRegister_leaves _ _) fun found => ?_
  split
  · exact note_leaves _
  · exact .fail _

lemma tryReset_leaves : Leaves processing (tryReset (σ := σ)) := by
  refine .bind (leaves_processing (writeRaw_leaves _ _)) fun _ => .bind (pause_leaves _) fun _ => ?_
  refine .bind (leaves_processing (readRegister_leaves _ _)) fun status => ?_
  split
  · exact .pure _
  · refine .bind (writeChecked_leaves _ _) fun _ => .bind (pause_leaves _) fun _ => ?_
    exact .bind (leaves_processing (readRegister_leaves _ _)) fun _ => .pure _

lemma attemptResets_leaves (number left : Nat) :
    Leaves processing (attemptResets (σ := σ) number left) := by
  induction left generalizing number with
  | zero => exact .pure _
  | succ left ih =>
    refine .bind (.attempt tryReset_leaves) fun result => ?_
    split
    · exact .bind (leaves_processing (note_leaves _)) fun _ => .pure _
    · refine .bind (leaves_processing (note_leaves _)) fun _ => ?_
      refine .bind (leaves_processing (tally_leaves _)) fun _ => ?_
      exact .bind (pause_leaves _) fun _ => ih _

lemma configure_leaves : Leaves processing (configure (σ := σ)) := by
  refine .bind (writeChecked_leaves _ _) fun _ => .bind (pause_leaves _) fun _ => ?_
  refine .bind .look fun _ => .bind (programRate_leaves _) fun _ => ?_
  refine .bind (pause_leaves _) fun _ => .bind .look fun _ => ?_
  refine .bind (programOnChipFilter_leaves _) fun _ => .bind (pause_leaves _) fun _ => ?_
  refine .bind (writeChecked_leaves _ _) fun _ => .bind (.update fun _ => rfl) fun _ => ?_
  refine .bind (pause_leaves _) fun _ => .bind .look fun _ => ?_
  refine .bind (programFullScale_leaves _) fun _ => .bind (pause_leaves _) fun _ => ?_
  refine .bind (writeChecked_leaves _ _) fun _ => .bind (pause_leaves _) fun _ => ?_
  exact .bind (writeChecked_leaves _ _) fun _ => pause_leaves _

lemma reset_leaves : Leaves processing (reset (σ := σ)) := by
  refine .bind (attemptResets_leaves _ _) fun took => ?_
  split
  · exact .bind configure_leaves fun _ => .update fun _ => rfl
  · exact .bind (leaves_processing (note_leaves _)) fun _ => .fail _

lemma initialise_leaves : Leaves processing (initialise (σ := σ)) :=
  .bind (leaves_processing probe_leaves) fun _ => .bind reset_leaves fun _ =>
    .bind .look fun _ => leaves_processing (note_leaves _)

/-! ### Diagnosis -/

lemma readAll_leaves (addresses : List UInt8) :
    Leaves interior (readAll (σ := σ) addresses) := by
  induction addresses with
  | nil => exact .pure _
  | cons address rest ih =>
    exact .bind (readRegister_leaves _ _) fun _ => .bind ih fun _ => .pure _

omit [Transport σ] in
lemma noteSlowBlock_leaves (reading : Reading blockSize) :
    Leaves interior (noteSlowBlock (σ := σ) reading) := by
  refine .bind .look fun d => ?_
  split
  · exact .fail _
  · exact note_leaves _

/-- A slow read ends without the mark of a factory test, whichever way it ends. -/
lemma provokeSlowRead_interior (d : Driver σ) :
    (provokeSlowRead d).2.interior = { d with inFactoryTest := false }.interior := by
  have dumped (reading : Reading blockSize) : Leaves interior (do
      noteSlowBlock reading
      dumpRegisters (σ := σ)) :=
    .bind (noteSlowBlock_leaves _) fun _ => readAll_leaves _
  rw [provokeSlowRead, bind_apply]
  simp only [update_apply]
  rw [bind_apply, attempt_apply, readInto_apply]
  cases (Transport.read Register.interruptStatus .low (Vector.replicate blockSize 0) d.bus).1 with
  | error text => rfl
  | ok reading => exact dumped reading _

lemma findMismatches_leaves (entries : List (UInt8 × UInt8)) :
    Leaves interior (findMismatches (σ := σ) entries) := by
  induction entries with
  | nil => exact .pure _
  | cons entry rest ih =>
    refine .bind (.attempt (readRegister_leaves _ _)) fun result => ?_
    split
    · refine .bind ih fun others => ?_
      split
      · exact .pure _
      · exact .pure _
    · exact .bind (note_leaves _) fun _ => ih

lemma summarise_leaves : Leaves interior (summarise (σ := σ)) :=
  .bind .look fun _ => .bind (findMismatches_leaves _) fun _ => .bind .look fun _ => .pure _

end Driver

end InertialSensor
