import InertialSensor.Proofs.Driver.Related
import InertialSensor.Proofs.Driver.Reports

/-!
# States that measure alike

What is unread, published or noted down, and how often was read, never flows back into the
measurement. Two states are `Alike` if they differ in these only, and their buses cannot be told
apart by transfers; `hides` says whether they may also differ in the blocking of publication.

A routine is `Likewise` if it answers alike states alike and leaves them alike, and `Follows` if it
at least leaves them alike; there is a rule for each way to put routines together, and a lemma for
each routine. What only looks at single registers by slow reads is `Unseen`: the state that it
leaves is alike to the one it found.
-/

namespace InertialSensor

/-- Buses that transfers cannot tell apart stay so, and slow reads of single registers leave no
trace by which they could be told apart: there are no faults that hit one transfer or the other. -/
structure Transparent {σ : Type} [Transport σ] (alike : σ → σ → Prop) : Prop where
  read : ∀ {n : Nat} (address : UInt8) (speed : Speed) (buffer : Vector UInt8 n) {bus bus' : σ},
    alike bus bus' →
      (Transport.read address speed buffer bus).1 = (Transport.read address speed buffer bus').1 ∧
        alike (Transport.read address speed buffer bus).2 (Transport.read address speed buffer bus').2
  write : ∀ (address value : UInt8) {bus bus' : σ}, alike bus bus' →
    (Transport.write address value bus).1 = (Transport.write address value bus').1 ∧
      alike (Transport.write address value bus).2 (Transport.write address value bus').2
  glance : ∀ (address : UInt8) (buffer : Vector UInt8 1) {bus bus' : σ}, alike bus bus' →
    alike bus (Transport.read address .low buffer bus').2

/-- The stream without its unread reports. -/
def Stream.bare (s : Stream) : Stream := { s with backlog := .empty 0 }

namespace Driver

variable {σ : Type}

/-- The state without its bus, and without what never flows back into the measurement; publication
is taken as allowed if its blocking is to be hidden. -/
def core (hides : Bool) (d : Driver σ) : Driver Unit :=
  { d with
    bus := ()
    stats := { d.stats with reads := ⟨0, 0⟩ }
    streams := d.streams.map (·.bare)
    muted := !hides && d.muted
    published := #[]
    log := #[] }

/-- What measurements depend on, the bus included. -/
def outline (hides : Bool) (d : Driver σ) : σ × Driver Unit := (d.bus, d.core hides)

/-- Two states that cannot be told apart by what measurements come to. -/
structure Alike (hides : Bool) (alike : σ → σ → Prop) (d e : Driver σ) : Prop where
  bus : alike d.bus e.bus
  core : d.core hides = e.core hides

namespace Alike

variable {hides : Bool} {alike : σ → σ → Prop} {d e : Driver σ}

section

variable (h : Alike hides alike d e)
include h

lemma now : d.now = e.now := congrArg (·.clock.now) h.core

lemma config : d.config = e.config := congrArg (·.config) h.core

lemma inForce : d.inForce = e.inForce := congrArg (·.inForce) h.core

lemma watch : d.watch = e.watch := congrArg (·.watch) h.core

lemma guard : d.guard = e.guard := congrArg (·.guard) h.core

lemma pollInterval : d.pollInterval = e.pollInterval := congrArg (·.pollInterval) h.core

lemma inFactoryTest : d.inFactoryTest = e.inFactoryTest := congrArg (·.inFactoryTest) h.core

lemma logging : d.logging = e.logging := congrArg (·.logging) h.core

lemma cycles : d.stats.cycles = e.stats.cycles := congrArg (·.stats.cycles) h.core

lemma errors : d.stats.errors = e.stats.errors := congrArg (·.stats.errors) h.core

lemma filterRate : d.filterRate = e.filterRate := by
  rw [Driver.filterRate, Driver.filterRate, h.pollInterval, h.inForce]

lemma isSuspended : d.isSuspended = e.isSuspended := by
  rw [Driver.isSuspended, Driver.isSuspended, h.inFactoryTest, h.watch, h.now]

lemma bare (c : Channel) : (d.streams.get c).bare = (e.streams.get c).bare := by
  have same := congrArg (·.streams.get c) h.core
  simpa only [Driver.core, PerChannel.get_map] using same

end

end Alike

end Driver

namespace Routine

open Driver

variable {σ α β : Type} {hides : Bool} {alike : σ → σ → Prop}

/-- A routine answers alike states alike, and leaves them alike. -/
def Likewise (hides : Bool) (alike : σ → σ → Prop) (x : Routine σ α) : Prop :=
  ∀ d e, Alike hides alike d e → (x d).1 = (x e).1 ∧ Alike hides alike (x d).2 (x e).2

/-- A routine leaves alike states alike. -/
def Follows (hides : Bool) (alike : σ → σ → Prop) (x : Routine σ α) : Prop :=
  ∀ d e, Alike hides alike d e → Alike hides alike (x d).2 (x e).2

/-- A routine leaves no trace in what measurements depend on. -/
def Unseen (hides : Bool) (alike : σ → σ → Prop) (x : Routine σ α) : Prop :=
  ∀ d e, Alike hides alike d e → Alike hides alike d (x e).2

namespace Likewise

lemma follows {x : Routine σ α} (hx : Likewise hides alike x) : Follows hides alike x :=
  fun d e h => (hx d e h).2

lemma pure (a : α) : Likewise hides alike (pure a : Routine σ α) := Respects.pure a

lemma fail (e : Failure) : Likewise hides alike (fail e : Routine σ α) := Respects.fail e

lemma bind {x : Routine σ α} {f : α → Routine σ β} (hx : Likewise hides alike x)
    (hf : ∀ a, Likewise hides alike (f a)) : Likewise hides alike (x >>= f) :=
  Respects.bind hx hf

lemma look_bind {f : Driver σ → Routine σ α}
    (same : ∀ {d e}, Alike hides alike d e → f d = f e) (hf : ∀ d, Likewise hides alike (f d)) :
    Likewise hides alike (look >>= f) :=
  Respects.look_bind same hf

lemma attempt {x : Routine σ α} (hx : Likewise hides alike x) :
    Likewise hides alike (attempt x) :=
  Respects.attempt hx

/-- A change that works on what measurements depend on as on a state of its own. -/
lemma update {f : Driver σ → Driver σ} {F : Driver Unit → Driver Unit}
    (core : ∀ d, (f d).core hides = F (d.core hides)) (bus : ∀ d, (f d).bus = d.bus) :
    Likewise hides alike (update f) := by
  intro d e h
  refine ⟨rfl, ⟨?_, ?_⟩⟩
  · simp only [update_apply, bus]
    exact h.bus
  · simp only [update_apply, core, h.core]

end Likewise

namespace Follows

lemma fail (e : Failure) : Follows hides alike (fail e : Routine σ α) := fun _ _ h => h

lemma look_bind {f : Driver σ → Routine σ α}
    (same : ∀ {d e}, Alike hides alike d e → f d = f e) (hf : ∀ d, Follows hides alike (f d)) :
    Follows hides alike (look >>= f) := by
  intro d e h
  rw [bind_apply, bind_apply]
  simp only [look_apply, ← same h]
  exact hf d d e h

lemma bind {x : Routine σ α} {f : α → Routine σ β} (hx : Likewise hides alike x)
    (hf : ∀ a, Follows hides alike (f a)) : Follows hides alike (x >>= f) := by
  intro d e h
  obtain ⟨same, after⟩ := hx d e h
  rw [bind_apply, bind_apply]
  generalize x d = r at same after ⊢
  generalize x e = r' at same after ⊢
  obtain ⟨result, d'⟩ := r
  obtain ⟨result', e'⟩ := r'
  cases same
  cases result with
  | error cause => exact after
  | ok a => exact hf a _ _ after

/-- What works on nothing that flows back leaves alike states alike. -/
lemma of_leaves {x : Routine σ α} (hx : Leaves (outline hides) x) : Follows hides alike x := by
  intro d e h
  obtain ⟨bus, core⟩ := Prod.mk.inj (hx d)
  obtain ⟨bus', core'⟩ := Prod.mk.inj (hx e)
  exact ⟨by rw [bus, bus']; exact h.bus, by rw [core, core', h.core]⟩

end Follows

namespace Unseen

lemma pure (a : α) : Unseen hides alike (pure a : Routine σ α) := fun _ _ h => h

lemma look : Unseen hides alike (look : Routine σ (Driver σ)) := fun _ _ h => h

lemma bind {x : Routine σ α} {f : α → Routine σ β} (hx : Unseen hides alike x)
    (hf : ∀ a, Unseen hides alike (f a)) : Unseen hides alike (x >>= f) := by
  intro d e h
  have after := hx d e h
  rw [bind_apply]
  generalize x e = r at after ⊢
  obtain ⟨_ | a, e'⟩ := r
  · exact after
  · exact hf a _ _ after

lemma attempt {x : Routine σ α} (hx : Unseen hides alike x) : Unseen hides alike (attempt x) := hx

/-- What works on nothing that flows back leaves no trace. -/
lemma of_leaves {x : Routine σ α} (hx : Leaves (outline hides) x) : Unseen hides alike x := by
  intro d e h
  obtain ⟨bus, core⟩ := Prod.mk.inj (hx e)
  exact ⟨by rw [bus]; exact h.bus, by rw [core, h.core]⟩

end Unseen

end Routine

namespace Driver

open Routine

variable {σ : Type} {hides : Bool} {alike : σ → σ → Prop}

/-! ### Notes, time and counts -/

lemma note_likewise (event : Event) : Likewise hides alike (note event : Routine σ Unit) :=
  .update (F := id) (fun _ => rfl) fun _ => rfl

lemma note_outline (event : Event) : Leaves (outline hides) (note event : Routine σ Unit) :=
  .update fun _ => rfl

lemma delay_likewise (us : UInt64) : Likewise hides alike (delay us : Routine σ Unit) :=
  .update (F := fun d => { d with clock := d.clock.advance us }) (fun _ => rfl) fun _ => rfl

/-- Counting anything but reads. -/
lemma tally_likewise {f : Stats → Stats}
    (other : ∀ s, { f s with reads := ⟨0, 0⟩ } = f { s with reads := ⟨0, 0⟩ }) :
    Likewise hides alike (tally f : Routine σ Unit) := by
  refine .update (F := fun d => { d with stats := f d.stats }) (fun d => ?_) fun _ => rfl
  simp only [core, other]

/-- A change of the watch. -/
lemma watch_likewise (f : Integrity.Watch → Integrity.Watch) :
    Likewise hides alike (update fun d => { d with watch := f d.watch } : Routine σ Unit) :=
  .update (F := fun d => { d with watch := f d.watch }) (fun _ => rfl) fun _ => rfl

/-- A change of one stream that does not concern its unread reports. -/
lemma updateStream_likewise {f : Stream → Stream} (apart : ∀ s, (f s).bare = f s.bare)
    (c : Channel) : Likewise hides alike (updateStream c f : Routine σ Unit) := by
  refine .update (F := fun d => { d with streams := d.streams.modify c f }) (fun d => ?_)
    fun _ => rfl
  cases c with
  | accel => simp only [core, PerChannel.map, PerChannel.modify, apart]
  | gyro => simp only [core, PerChannel.map, PerChannel.modify, apart]

/-! ### Unread reports -/

/-- A change of the unread reports of one stream. -/
lemma updateStream_outline {f : Stream → Stream} (unread : ∀ s, (f s).bare = s.bare)
    (c : Channel) : Leaves (outline hides) (updateStream c f : Routine σ Unit) := by
  refine .update fun d => ?_
  cases c with
  | accel => simp only [outline, core, PerChannel.map, PerChannel.modify, unread]
  | gyro => simp only [outline, core, PerChannel.map, PerChannel.modify, unread]

lemma takeReports_outline (c : Channel) (max : Nat) :
    Leaves (outline hides) (takeReports (σ := σ) c max) := by
  intro d
  cases c with
  | accel => rfl
  | gyro => rfl

lemma countedTake_outline (c : Channel) (max : Nat) :
    Leaves (outline hides) (countedTake (σ := σ) c max) := by
  refine .bind (.update fun _ => rfl) fun _ => .bind (takeReports_outline c max) fun reports => ?_
  split
  · exact .fail _
  · exact .pure _

lemma setQueueDepth_outline (c : Channel) (depth : Nat) :
    Leaves (outline hides) (setQueueDepth (σ := σ) c depth) := by
  refine .bind .look fun d => ?_
  split
  · refine updateStream_outline ?_ c
    exact fun _ => rfl
  · exact .fail _

lemma forgetHistory_likewise : Likewise hides alike (forgetHistory (σ := σ)) :=
  .update (F := fun d => { d with guard := {} }) (fun _ => rfl) fun _ => rfl

/-! ### Register access -/

variable [Transport σ] (transparent : Transparent alike)

include transparent

lemma readInto_likewise (n : Nat) (address : UInt8) (speed : Speed) :
    Likewise hides alike (readInto (σ := σ) n address speed) := by
  intro d e h
  obtain ⟨same, after⟩ := transparent.read address speed (Vector.replicate n 0) h.bus
  rw [readInto_apply, readInto_apply, same]
  exact ⟨rfl, after, h.core⟩

lemma readExactly_likewise (n : Nat) (address : UInt8) (speed : Speed) :
    Likewise hides alike (readExactly (σ := σ) n address speed) := by
  refine .bind (readInto_likewise transparent n address speed) fun reading => ?_
  split
  · exact .pure _
  · exact .fail _

lemma readRegister_likewise (address : UInt8) (speed : Speed) :
    Likewise hides alike (readRegister (σ := σ) address speed) :=
  .bind (readExactly_likewise transparent 1 address speed) fun _ => .pure _

lemma writeRaw_likewise (address value : UInt8) :
    Likewise hides alike (writeRaw (σ := σ) address value) := by
  intro d e h
  obtain ⟨same, after⟩ := transparent.write address value h.bus
  rw [writeRaw_apply, writeRaw_apply, same]
  exact ⟨rfl, after, h.core⟩

lemma writeChecked_likewise (address value : UInt8) :
    Likewise hides alike (writeChecked (σ := σ) address value) :=
  .bind (writeRaw_likewise transparent address value) fun _ =>
    watch_likewise (·.record address value)

lemma programRate_likewise (hz : Nat) : Likewise hides alike (programRate (σ := σ) hz) :=
  .bind (writeChecked_likewise transparent _ _) fun _ =>
    .update (F := fun d => { d with inForce.rate := .forHertz hz }) (fun _ => rfl) fun _ => rfl

lemma programOnChipFilter_likewise (hz : Nat) :
    Likewise hides alike (programOnChipFilter (σ := σ) hz) :=
  .bind (writeChecked_likewise transparent _ _) fun _ =>
    .update
      (F := fun d => { d with inForce.onChipFilter := .forCutoff hz, config.onChipCutoff := hz })
      (fun _ => rfl) fun _ => rfl

lemma programFullScale_likewise (g : Nat) :
    Likewise hides alike (programFullScale (σ := σ) g) :=
  .bind (writeChecked_likewise transparent _ _) fun _ =>
    .update
      (F := fun d =>
        { d with
          inForce.fullScale := .covering g
          inForce.perCount.accel := (FullScale.covering g).scale
          config.rangeG := (FullScale.covering g).multiple })
      (fun _ => rfl) fun _ => rfl

/-! ### Bring-up -/

lemma probe_likewise : Likewise hides alike (probe (σ := σ)) := by
  refine .bind (readRegister_likewise transparent _ _) fun found => ?_
  split
  · exact note_likewise _
  · exact .fail _

lemma tryReset_likewise : Likewise hides alike (tryReset (σ := σ)) := by
  refine .bind (writeRaw_likewise transparent _ _) fun _ => .bind (delay_likewise _) fun _ => ?_
  refine .bind (readRegister_likewise transparent _ _) fun status => ?_
  split
  · exact .pure _
  · refine .bind (writeChecked_likewise transparent _ _) fun _ => ?_
    refine .bind (delay_likewise _) fun _ => ?_
    exact .bind (readRegister_likewise transparent _ _) fun _ => .pure _

lemma attemptResets_likewise (number left : Nat) :
    Likewise hides alike (attemptResets (σ := σ) number left) := by
  induction left generalizing number with
  | zero => exact .pure _
  | succ left ih =>
    refine .bind (.attempt (tryReset_likewise transparent)) fun result => ?_
    split
    · exact .bind (note_likewise _) fun _ => .pure _
    · refine .bind (note_likewise _) fun _ => .bind (tally_likewise fun _ => rfl) fun _ => ?_
      exact .bind (delay_likewise _) fun _ => ih _

lemma configure_likewise : Likewise hides alike (configure (σ := σ)) := by
  refine .bind (writeChecked_likewise transparent _ _) fun _ => .bind (delay_likewise _) fun _ => ?_
  refine .look_bind (fun h => by rw [h.config]) fun _ => ?_
  refine .bind (programRate_likewise transparent _) fun _ => .bind (delay_likewise _) fun _ => ?_
  refine .look_bind (fun h => by rw [h.config]) fun _ => ?_
  refine .bind (programOnChipFilter_likewise transparent _) fun _ => ?_
  refine .bind (delay_likewise _) fun _ => .bind (writeChecked_likewise transparent _ _) fun _ => ?_
  refine .bind (.update (F := fun d => { d with inForce.perCount.gyro := gyroScale })
    (fun _ => rfl) fun _ => rfl) fun _ => .bind (delay_likewise _) fun _ => ?_
  refine .look_bind (fun h => by rw [h.config]) fun _ => ?_
  refine .bind (programFullScale_likewise transparent _) fun _ => ?_
  refine .bind (delay_likewise _) fun _ => ?_
  refine .bind (writeChecked_likewise transparent _ _) fun _ => .bind (delay_likewise _) fun _ => ?_
  exact .bind (writeChecked_likewise transparent _ _) fun _ => delay_likewise _

lemma reset_likewise : Likewise hides alike (reset (σ := σ)) := by
  refine .bind (attemptResets_likewise transparent _ _) fun took => ?_
  split
  · exact .bind (configure_likewise transparent) fun _ => watch_likewise (·.clear)
  · exact .bind (note_likewise _) fun _ => .fail _

lemma initialise_likewise : Likewise hides alike (initialise (σ := σ)) := by
  refine .bind (probe_likewise transparent) fun _ => .bind (reset_likewise transparent) fun _ => ?_
  exact .look_bind (fun h => by rw [h.inForce]) fun _ => note_likewise _

/-! ### Settings -/

lemma setPollInterval_likewise (us : UInt64) :
    Likewise hides alike (setPollInterval (σ := σ) us) := by
  refine .bind (.update (F := fun d => { d with pollInterval := us }) (fun _ => rfl) fun _ => rfl)
    fun _ => ?_
  split
  · exact .pure _
  · refine .bind (.update
      (F := fun d =>
        { d with streams := d.streams.map fun s => s.redesign (1e6 / us.toFloat32) s.cutoff })
      (fun _ => rfl) fun _ => rfl) fun _ => ?_
    refine .look_bind (fun h => ?_) fun _ => programOnChipFilter_likewise transparent _
    have cutoff := congrArg Stream.cutoff (h.bare .gyro)
    exact congrArg (fun hz => programOnChipFilter (wholeHertz hz)) cutoff

lemma setLowPass_likewise (c : Channel) (hz : Float32) :
    Likewise hides alike (setLowPass (σ := σ) c hz) := by
  unfold setLowPass
  split
  · exact .fail _
  · refine .bind (programOnChipFilter_likewise transparent _) fun _ => ?_
    refine .look_bind (fun h => by rw [h.filterRate]) fun d => ?_
    refine .bind (updateStream_likewise (f := (·.redesign d.filterRate hz)) (fun _ => rfl) c)
      fun _ => ?_
    exact .update
      (F := fun d => { d with config.cutoffs := d.config.cutoffs.modify c fun _ => hz })
      (fun _ => rfl) fun _ => rfl

lemma setSampleRate_likewise (hz : Nat) : Likewise hides alike (setSampleRate (σ := σ) hz) :=
  .bind (programRate_likewise transparent hz) fun _ =>
    .update (F := fun d => { d with config.sampleRate := hz }) (fun _ => rfl) fun _ => rfl

omit transparent [Transport σ] in
lemma setCalibration_likewise (c : Channel) (calibration : Calibration) :
    Likewise hides alike (setCalibration (σ := σ) c calibration) := by
  unfold setCalibration
  split
  · exact .fail _
  · exact updateStream_likewise (f := fun s => { s with calibration := calibration })
      (fun _ => rfl) c

omit transparent [Transport σ] in
lemma setMuted_likewise (muted : Bool) : Likewise hides alike (setMuted (σ := σ) muted) :=
  .update (F := fun d => { d with muted := !hides && muted }) (fun _ => rfl) fun _ => rfl

omit transparent [Transport σ] in
/-- If its blocking is hidden, switching publication leaves no trace. -/
lemma setMuted_unseen (muted : Bool) : Unseen true alike (setMuted (σ := σ) muted) :=
  .of_leaves (.update fun _ => rfl)

/-! ### Diagnosis -/

lemma readAll_likewise (addresses : List UInt8) :
    Likewise hides alike (readAll (σ := σ) addresses) := by
  induction addresses with
  | nil => exact .pure _
  | cons address rest ih =>
    exact .bind (readRegister_likewise transparent _ _) fun _ => .bind ih fun _ => .pure _

omit transparent [Transport σ] in
lemma noteSlowBlock_likewise (reading : Reading blockSize) :
    Likewise hides alike (noteSlowBlock (σ := σ) reading) := by
  refine .look_bind (fun h => by rw [h.logging]) fun d => ?_
  split
  · exact .fail _
  · exact note_likewise _

lemma provokeSlowRead_likewise : Likewise hides alike (provokeSlowRead (σ := σ)) := by
  have mark (running : Bool) : Likewise hides alike
      (update fun d => { d with inFactoryTest := running } : Routine σ Unit) :=
    .update (F := fun d => { d with inFactoryTest := running }) (fun _ => rfl) fun _ => rfl
  refine .bind (mark true) fun _ => ?_
  refine .bind (.attempt (readInto_likewise transparent _ _ _)) fun result => ?_
  refine .bind (mark false) fun _ => ?_
  split
  · exact .fail _
  · exact .bind (noteSlowBlock_likewise _) fun _ => readAll_likewise transparent _

lemma findMismatches_likewise (entries : List (UInt8 × UInt8)) :
    Likewise hides alike (findMismatches (σ := σ) entries) := by
  induction entries with
  | nil => exact .pure _
  | cons entry rest ih =>
    refine .bind (.attempt (readRegister_likewise transparent _ _)) fun result => ?_
    split
    · refine .bind ih fun others => ?_
      split
      · exact .pure _
      · exact .pure _
    · exact .bind (note_likewise _) fun _ => ih

lemma summarise_follows : Follows hides alike (summarise (σ := σ)) := by
  refine .look_bind (fun h => by rw [h.watch]) fun d => ?_
  exact .bind (findMismatches_likewise transparent _) fun _ =>
    .of_leaves (.bind .look fun _ => .pure _)

/-- A slow look at one register leaves no trace. -/
lemma readRegister_unseen (address : UInt8) :
    Unseen hides alike (readRegister (σ := σ) address .low) := by
  intro d e h
  rw [readRegister_state]
  exact ⟨transparent.glance address _ h.bus, h.core⟩

lemma dumpRegisters_unseen : Unseen hides alike (dumpRegisters (σ := σ)) := by
  rw [dumpRegisters]
  generalize (List.range _).map _ = addresses
  induction addresses with
  | nil => exact .pure _
  | cons address rest ih =>
    exact .bind (readRegister_unseen transparent _) fun _ => .bind ih fun _ => .pure _

lemma findMismatches_unseen (entries : List (UInt8 × UInt8)) :
    Unseen hides alike (findMismatches (σ := σ) entries) := by
  induction entries with
  | nil => exact .pure _
  | cons entry rest ih =>
    refine .bind (.attempt (readRegister_unseen transparent _)) fun result => ?_
    split
    · refine .bind ih fun others => ?_
      split
      · exact .pure _
      · exact .pure _
    · exact .bind (.of_leaves (note_outline _)) fun _ => ih

lemma summarise_unseen : Unseen hides alike (summarise (σ := σ)) :=
  .bind .look fun _ =>
    .bind (findMismatches_unseen transparent _) fun _ => .bind .look fun _ => .pure _

end Driver

end InertialSensor
