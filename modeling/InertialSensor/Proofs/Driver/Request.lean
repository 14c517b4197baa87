import InertialSensor.Proofs.Driver.Touch

/-!
# Requests without a cycle

Register access, bring-up, settings, diagnosis and the taking of reports work through touches only.
A reset that takes also forgets the recovery in progress (`reset_cases`).
-/

namespace InertialSensor.Driver

open Routine

variable {σ : Type} [Transport σ] {resetting : Prop}

/-! ### Register access -/

lemma readInto_apply (n : Nat) (address : UInt8) (speed : Speed) (d : Driver σ) :
    readInto n address speed d =
      ((Transport.read address speed (Vector.replicate n 0) d.bus).1.mapError .bus,
        { d with bus := (Transport.read address speed (Vector.replicate n 0) d.bus).2 }) := rfl

lemma readExactly_state (n : Nat) (address : UInt8) (speed : Speed) (d : Driver σ) :
    (readExactly n address speed d).2 =
      { d with bus := (Transport.read address speed (Vector.replicate n 0) d.bus).2 } := by
  rw [readExactly, bind_apply, readInto_apply]
  cases (Transport.read address speed (Vector.replicate n 0) d.bus).1 with
  | error text => rfl
  | ok reading =>
    simp only [Except.mapError]
    split <;> rfl

lemma readExactly_of_ok {n : Nat} {address : UInt8} {speed : Speed} {d : Driver σ}
    {reading : Reading n}
    (read : (Transport.read address speed (Vector.replicate n 0) d.bus).1 = .ok reading) :
    (readExactly n address speed d).1 =
      if reading.count = n then .ok reading.bytes else .error (.transfer n reading.count) := by
  rw [readExactly, bind_apply, readInto_apply, read]
  simp only [Except.mapError]
  split
  · rfl
  · rfl

lemma readRegister_state (address : UInt8) (speed : Speed) (d : Driver σ) :
    (readRegister address speed d).2 =
      { d with bus := (Transport.read address speed (Vector.replicate 1 0) d.bus).2 } := by
  rw [← readExactly_state, readRegister, bind_apply]
  generalize readExactly 1 address speed d = r
  obtain ⟨_ | _, _⟩ := r <;> rfl

lemma readExactly_ok_iff {n : Nat} {address : UInt8} {speed : Speed} {d : Driver σ}
    {bytes : Vector UInt8 n} :
    (readExactly n address speed d).1 = .ok bytes ↔
      ∃ reading : Reading n,
        (Transport.read address speed (Vector.replicate n 0) d.bus).1 = .ok reading ∧
          reading.count = n ∧ reading.bytes = bytes := by
  rw [readExactly, bind_apply, readInto_apply]
  cases (Transport.read address speed (Vector.replicate n 0) d.bus).1 with
  | error text => exact ⟨nofun, nofun⟩
  | ok reading =>
    simp only [Except.mapError, Except.ok.injEq, exists_eq_left']
    by_cases claimed : reading.count = n
    · rw [if_pos claimed]
      simp [claimed]
    · rw [if_neg claimed]
      simp [claimed]

lemma readRegister_ok_iff {address : UInt8} {speed : Speed} {d : Driver σ} {found : UInt8} :
    (readRegister address speed d).1 = .ok found ↔
      ∃ reading : Reading 1,
        (Transport.read address speed (Vector.replicate 1 0) d.bus).1 = .ok reading ∧
          reading.count = 1 ∧ reading.bytes.get 0 = found := by
  have exactly (bytes : Vector UInt8 1) : (readExactly 1 address speed d).1 = .ok bytes ↔ _ :=
    readExactly_ok_iff
  rw [readRegister, bind_apply]
  generalize readExactly 1 address speed d = r at exactly ⊢
  obtain ⟨cause | bytes, d'⟩ := r
  · refine ⟨nofun, ?_⟩
    rintro ⟨reading, read, claimed, -⟩
    cases (exactly reading.bytes).mpr ⟨reading, read, claimed, rfl⟩
  · constructor
    · intro found
      obtain ⟨reading, read, claimed, same⟩ := (exactly bytes).mp rfl
      cases found
      exact ⟨reading, read, claimed, by rw [same]; rfl⟩
    · rintro ⟨reading, read, claimed, rfl⟩
      cases (exactly reading.bytes).mpr ⟨reading, read, claimed, rfl⟩
      rfl

lemma writeRaw_apply (address value : UInt8) (d : Driver σ) :
    writeRaw address value d =
      ((Transport.write address value d.bus).1.mapError .bus,
        { d with bus := (Transport.write address value d.bus).2 }) := rfl

lemma readInto_quietly (n : Nat) (address : UInt8) (speed : Speed) :
    Quietly resetting (readInto (σ := σ) n address speed) :=
  fun _ => .single (.read address speed _)

lemma readExactly_quietly (n : Nat) (address : UInt8) (speed : Speed) :
    Quietly resetting (readExactly (σ := σ) n address speed) := by
  refine .bind (readInto_quietly n address speed) fun reading => ?_
  split
  · exact .pure _
  · exact .fail _

lemma readRegister_quietly (address : UInt8) (speed : Speed) :
    Quietly resetting (readRegister (σ := σ) address speed) :=
  .bind (readExactly_quietly 1 address speed) fun _ => .pure _

/-- A checked write that fails leaves the shadow alone. -/
lemma writeChecked_of_error {address value : UInt8} {d : Driver σ} {text : String}
    (h : (Transport.write address value d.bus).1 = .error text) :
    writeChecked address value d =
      (.error (.bus text), { d with bus := (Transport.write address value d.bus).2 }) := by
  rw [writeChecked, bind_apply, writeRaw_apply, h]
  rfl

lemma writeChecked_of_ok {address value : UInt8} {d : Driver σ}
    (h : (Transport.write address value d.bus).1 = .ok ()) :
    writeChecked address value d =
      (.ok (),
        { d with
          bus := (Transport.write address value d.bus).2
          watch := d.watch.record address value }) := by
  rw [writeChecked, bind_apply, writeRaw_apply, h]
  rfl

lemma writeChecked_quietly {address value : UInt8} (setting : IsSetting address value) :
    Quietly resetting (writeChecked (σ := σ) address value) := by
  intro d
  cases h : (Transport.write address value d.bus).1 with
  | error text =>
    rw [writeChecked_of_error h]
    exact .single (.refused h)
  | ok =>
    rw [writeChecked_of_ok h]
    exact .single (.written setting h)

/-- Registers other than the power register are set by any write. -/
lemma isSetting_of_ne {address : UInt8} (value : UInt8) (h : address ≠ Register.power) :
    IsSetting address value := fun same => absurd same h

lemma programRate_quietly (hz : Nat) : Quietly resetting (programRate (σ := σ) hz) :=
  .bind (writeChecked_quietly (isSetting_of_ne _ (by decide))) fun _ =>
    .update fun _ => aside_of_streams rfl rfl

lemma programOnChipFilter_quietly (hz : Nat) :
    Quietly resetting (programOnChipFilter (σ := σ) hz) :=
  .bind (writeChecked_quietly (isSetting_of_ne _ (by decide))) fun _ =>
    .update fun _ => aside_of_streams rfl rfl

lemma programFullScale_quietly (g : Nat) : Quietly resetting (programFullScale (σ := σ) g) :=
  .bind (writeChecked_quietly (isSetting_of_ne _ (by decide))) fun _ =>
    .update fun _ => aside_of_streams rfl rfl

/-! ### Bring-up -/

lemma probe_quietly : Quietly resetting (probe (σ := σ)) := by
  refine .bind (readRegister_quietly _ _) fun found => ?_
  split
  · exact .note _
  · exact .fail _

lemma tryReset_quietly : Quietly True (tryReset (σ := σ)) := by
  refine .bind (fun _ => .single (.reset trivial)) fun _ => .bind (.delay _) fun _ => ?_
  refine .bind (readRegister_quietly _ _) fun status => ?_
  split
  · exact .pure _
  · refine .bind (writeChecked_quietly fun _ => by decide) fun _ => .bind (.delay _) fun _ => ?_
    exact .bind (readRegister_quietly _ _) fun _ => .pure _

lemma attemptResets_quietly (number left : Nat) :
    Quietly True (attemptResets (σ := σ) number left) := by
  induction left generalizing number with
  | zero => exact .pure _
  | succ left ih =>
    refine .bind (.attempt tryReset_quietly) fun result => ?_
    split
    · exact .bind (.note _) fun _ => .pure _
    · refine .bind (.note _) fun _ => .bind (.update aside_countRetry) fun _ => ?_
      exact .bind (.delay _) fun _ => ih _

lemma configure_quietly : Quietly resetting (configure (σ := σ)) := by
  refine .bind (writeChecked_quietly (isSetting_of_ne _ (by decide))) fun _ => ?_
  refine .bind (.delay _) fun _ => .bind .look fun _ => .bind (programRate_quietly _) fun _ => ?_
  refine .bind (.delay _) fun _ => .bind .look fun _ => ?_
  refine .bind (programOnChipFilter_quietly _) fun _ => .bind (.delay _) fun _ => ?_
  refine .bind (writeChecked_quietly (isSetting_of_ne _ (by decide))) fun _ => ?_
  refine .bind (.update fun _ => aside_of_streams rfl rfl) fun _ => ?_
  refine .bind (.delay _) fun _ => .bind .look fun _ => ?_
  refine .bind (programFullScale_quietly _) fun _ => .bind (.delay _) fun _ => ?_
  refine .bind (writeChecked_quietly (isSetting_of_ne _ (by decide))) fun _ => ?_
  refine .bind (.delay _) fun _ => ?_
  exact .bind (writeChecked_quietly (isSetting_of_ne _ (by decide))) fun _ => .delay _

/-- A reset that fails works through touches only; one that succeeds also forgets the recovery in
progress, and does nothing after that. -/
lemma reset_cases (d : Driver σ) :
    (∃ cause, (reset d).1 = .error cause ∧ Quiet True d (reset d).2) ∨
      (reset d).1 = .ok () ∧
        ∃ between, Quiet True d between ∧
          (reset d).2 = { between with watch := between.watch.clear } := by
  have attempts := attemptResets_quietly (σ := σ) 1 resetAttempts d
  rw [reset, bind_apply]
  generalize attemptResets 1 resetAttempts d = r at attempts ⊢
  obtain ⟨cause | took, d₁⟩ := r
  · exact .inl ⟨cause, rfl, attempts⟩
  · cases took with
    | false =>
      refine .inl ⟨.unavailable resetAttempts, rfl, attempts.trans ?_⟩
      exact Quietly.bind (.note _) (fun _ => .fail _) d₁
    | true =>
      have settings : Quiet True d₁ (configure d₁).2 := configure_quietly d₁
      simp only [if_true]
      rw [bind_apply]
      generalize configure d₁ = r at settings ⊢
      obtain ⟨cause | ⟨⟩, d₂⟩ := r
      · exact .inl ⟨cause, rfl, attempts.trans settings⟩
      · exact .inr ⟨rfl, d₂, attempts.trans settings, rfl⟩

/-! ### Settings -/

/-- An interval other than zero is set, the filters are designed for it, and then the chip's filter
is given the cutoff of the gyro, which the design has kept. -/
lemma setPollInterval_of_periodic {us : UInt64} (periodic : us ≠ 0) (d : Driver σ) :
    setPollInterval us d =
      programOnChipFilter (wholeHertz d.streams.gyro.cutoff)
        { d with
          pollInterval := us
          streams := d.streams.map fun s => s.redesign (1e6 / us.toFloat32) s.cutoff } := by
  have kept : (d.streams.gyro.redesign (1e6 / us.toFloat32) d.streams.gyro.cutoff).cutoff =
      d.streams.gyro.cutoff := Stream.cutoff_redesign ..
  rw [setPollInterval, bind_apply]
  simp only [update_apply]
  rw [if_neg periodic, ← kept]
  rfl

lemma setPollInterval_quietly (us : UInt64) :
    Quietly resetting (setPollInterval (σ := σ) us) := by
  refine .bind (.update fun _ => aside_of_streams rfl rfl) fun _ => ?_
  split
  · exact .pure _
  · refine .bind (.update fun _ => aside_of_work rfl fun c => ?_) fun _ => .bind .look fun _ => ?_
    · rw [PerChannel.get_map]
      exact List.suffix_rfl
    · exact programOnChipFilter_quietly _

lemma setLowPass_quietly (c : Channel) (hz : Float32) :
    Quietly resetting (setLowPass (σ := σ) c hz) := by
  unfold setLowPass
  split
  · exact .fail _
  · refine .bind (programOnChipFilter_quietly _) fun _ => .bind .look fun _ => ?_
    refine .bind (.update fun _ => aside_modify List.suffix_rfl) fun _ => ?_
    exact .update fun _ => aside_of_streams rfl rfl

lemma setSampleRate_quietly (hz : Nat) : Quietly resetting (setSampleRate (σ := σ) hz) :=
  .bind (programRate_quietly hz) fun _ =>
    .update fun _ => aside_of_streams rfl rfl

lemma setQueueDepth_quietly (c : Channel) (depth : Nat) :
    Quietly resetting (setQueueDepth (σ := σ) c depth) := by
  intro d
  rw [setQueueDepth, bind_apply]
  simp only [look_apply]
  cases h : (d.streams.get c).backlog.resize? depth with
  | none => exact .refl d
  | some backlog =>
    have empty : backlog.items = [] := by
      simp only [Backlog.resize?] at h
      split at h
      · cases h
        rfl
      · cases h
    refine .single (.aside (aside_modify ?_))
    simp only [empty]
    exact List.nil_suffix

lemma setCalibration_quietly (c : Channel) (calibration : Calibration) :
    Quietly resetting (setCalibration (σ := σ) c calibration) := by
  unfold setCalibration
  split
  · exact .fail _
  · exact .update fun _ => aside_modify List.suffix_rfl

lemma forgetHistory_quietly : Quietly resetting (forgetHistory (σ := σ)) := by
  refine .update fun _ => aside_of_work rfl fun c => ?_
  rw [PerChannel.get_map]
  exact List.nil_suffix

lemma setMuted_quietly (muted : Bool) : Quietly resetting (setMuted (σ := σ) muted) :=
  .update fun _ => aside_of_streams rfl rfl

/-! ### Diagnosis -/

lemma readAll_quietly (addresses : List UInt8) :
    Quietly resetting (readAll (σ := σ) addresses) := by
  induction addresses with
  | nil => exact .pure _
  | cons address rest ih =>
    exact .bind (readRegister_quietly _ _) fun _ => .bind ih fun _ => .pure _

lemma dumpRegisters_quietly : Quietly resetting (dumpRegisters (σ := σ)) := readAll_quietly _

lemma noteSlowBlock_quietly (reading : Reading blockSize) :
    Quietly resetting (noteSlowBlock (σ := σ) reading) := by
  refine .bind .look fun d => ?_
  split
  · exact .fail _
  · exact .note _

lemma provokeSlowRead_quietly : Quietly resetting (provokeSlowRead (σ := σ)) := by
  refine .bind (.update fun _ => aside_of_streams rfl rfl) fun _ => ?_
  refine .bind (.attempt (readInto_quietly _ _ _)) fun result => ?_
  refine .bind (.update fun _ => aside_of_streams rfl rfl) fun _ => ?_
  split
  · exact .fail _
  · exact .bind (noteSlowBlock_quietly _) fun _ => dumpRegisters_quietly

lemma findMismatches_quietly (entries : List (UInt8 × UInt8)) :
    Quietly resetting (findMismatches (σ := σ) entries) := by
  induction entries with
  | nil => exact .pure _
  | cons entry rest ih =>
    refine .bind (.attempt (readRegister_quietly _ _)) fun result => ?_
    split
    · refine .bind ih fun others => ?_
      split
      · exact .pure _
      · exact .pure _
    · exact .bind (.note _) fun _ => ih

lemma summarise_quietly : Quietly resetting (summarise (σ := σ)) :=
  .bind .look fun _ => .bind (findMismatches_quietly _) fun _ => .bind .look fun _ => .pure _

/-! ### Taking reports -/

omit [Transport σ] in
lemma takeReports_apply (c : Channel) (max : Nat) (d : Driver σ) :
    takeReports c max d =
      (.ok ((d.streams.get c).backlog.take max).1,
        { d with
          streams := d.streams.modify c fun s => { s with backlog :=
            ((d.streams.get c).backlog.take max).2 } }) := rfl

/-- What a read does in the end: it counts itself, and takes reports off the backlog. -/
def countedTake (c : Channel) (max : Nat) : Routine σ (List Report) := do
  tally fun s => { s with reads := s.reads.modify c (· + 1) }
  let reports ← takeReports c max
  if reports.isEmpty then fail .noData else pure reports

lemma read_zero (c : Channel) : read (σ := σ) c 0 = fail .bufferTooSmall := if_pos rfl

lemma read_of_polled (c : Channel) {max : Nat} {d : Driver σ} (some : max ≠ 0)
    (polled : d.pollInterval ≠ 0) : read c max d = countedTake c max d := by
  rw [read, if_neg some, bind_apply]
  simp only [look_apply]
  rw [if_neg polled]
  rfl

/-- While measuring on demand, a read empties the backlog and runs a cycle. -/
lemma read_of_demand (c : Channel) {max : Nat} {d : Driver σ} (some : max ≠ 0)
    (onDemand : d.pollInterval = 0) :
    read c max d =
      (measure >>= fun _ => countedTake c max)
        { d with streams := d.streams.modify c (·.flush) } := by
  rw [read, if_neg some, bind_apply]
  simp only [look_apply]
  rw [if_pos onDemand]
  rfl

lemma takeReports_quietly (c : Channel) (max : Nat) :
    Quietly resetting (takeReports (σ := σ) c max) :=
  fun _ => .single (.aside (aside_modify (List.drop_suffix _ _)))

lemma countedTake_quietly (c : Channel) (max : Nat) :
    Quietly resetting (countedTake (σ := σ) c max) := by
  refine .bind (.update (aside_countRead c)) fun _ => ?_
  refine .bind (takeReports_quietly c max) fun reports => ?_
  split
  · exact .fail _
  · exact .pure _

end InertialSensor.Driver
