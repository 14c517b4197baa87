import InertialSensor.Proofs.Driver.Frame
import InertialSensor.Proofs.Signal.Filters

/-!
# What a reset on request rewrites

A reset gives the settings to the chip once more, one checked register after the other
(`Setup.given`), and may start over several times. A `Progression` is a property for each number of
registers written so far that these writes carry on; whatever a reset comes to, it then ends with
the last of these properties or fails with the first (`reset_alters`).
-/

namespace InertialSensor

namespace Routine

open Driver

variable {σ α β : Type} {P F : Setup → Prop} {Q : α → Setup → Prop} {R : β → Setup → Prop}

/-- From a setup with `P` the routine ends in one with `Q`, or fails in one with `F`. -/
def Alters (P : Setup → Prop) (x : Routine σ α) (Q : α → Setup → Prop) (F : Setup → Prop) : Prop :=
  ∀ d, P d.setup → match x d with
    | (.ok a, d') => Q a d'.setup
    | (.error _, d') => F d'.setup

namespace Alters

/-- What was looked at is the present state. -/
lemma look : Alters P (look (σ := σ)) (fun d u => d.setup = u ∧ P u) F := fun _ h => ⟨rfl, h⟩

lemma update {f : Driver σ → Driver σ} {Q : Setup → Prop} (h : ∀ d, P d.setup → Q (f d).setup) :
    Alters P (update f) (fun _ => Q) F := h

lemma fail (e : Failure) (h : ∀ u, P u → F u) : Alters P (fail e : Routine σ α) Q F :=
  fun d => h d.setup

/-- More may be known at the start. -/
lemma of_start {x : Routine σ α} {P' : Setup → Prop} (start : ∀ u, P' u → P u)
    (hx : Alters P x Q F) : Alters P' x Q F := fun d h => hx d (start _ h)

lemma bind {x : Routine σ α} {f : α → Routine σ β} (hx : Alters P x Q F)
    (hf : ∀ a, Alters (Q a) (f a) R F) : Alters P (x >>= f) R F := by
  intro d h
  have first := hx d h
  rw [bind_apply]
  generalize x d = r at first ⊢
  obtain ⟨_ | a, between⟩ := r
  · exact first
  · exact hf a between first

lemma of_leaves {x : Routine σ α} (hx : Leaves setup x) (failed : ∀ u, P u → F u) :
    Alters P x (fun _ => P) F := by
  intro d h
  rw [← hx d] at h
  generalize x d = r at h ⊢
  obtain ⟨_ | a, d'⟩ := r
  · exact failed _ h
  · exact h

/-- What holds after a routine, be it after a failure. -/
lemma keeps {x : Routine σ α} {d : Driver σ} (hx : Alters P x (fun _ => P) P) (h : P d.setup) :
    P (x d).2.setup := by
  have done := hx d h
  generalize x d = r at done ⊢
  obtain ⟨_ | _, _⟩ := r
  · exact done
  · exact done

lemma of_ok {x : Routine σ α} {d : Driver σ} {a : α} (hx : Alters P x Q F) (h : P d.setup)
    (succeeds : (x d).1 = .ok a) : Q a (x d).2.setup := by
  have done := hx d h
  generalize x d = r at done succeeds ⊢
  obtain ⟨_ | _, _⟩ := r
  · cases succeeds
  · cases succeeds
    exact done

end Alters

end Routine

/-- The content that the checked registers should have while settings are in force. -/
def InForce.registers (f : InForce) : Vector UInt8 8 :=
  #v[Register.bestClock, 0, f.rate.registerValue, f.onChipFilter.registerValue,
    Register.gyroWidest, f.fullScale.registerValue, Register.dataReady, Register.anyReadClears]

namespace Driver

open Routine

variable {σ : Type}

/-! ### Coherence -/

/-- The settings in force are those that the configuration asks for, and the filters of each stream
have one design, with the cutoff that the configuration asks for. -/
structure Coherent (u : Setup) : Prop where
  settings : u.inForce = u.config.settings
  filters : ∀ c, LowPass.OneDesign (u.config.cutoffs.get c) (u.filters.get c)

/-- The setup after the register at a place was written in a reset. The full scale is taken over in
the configuration as it is in force. -/
def Setup.given (i : Fin 8) (u : Setup) : Setup :=
  { u with
    values := u.values.setIfInBounds i (u.inForce.registers.get i)
    config.rangeG := if i.val = 5 then u.inForce.fullScale.multiple else u.config.rangeG }

/-- A property for each number of registers written so far. -/
structure Progression (P : Nat → Setup → Prop) : Prop where
  coherent : ∀ {k u}, P k u → Coherent u
  restart : ∀ {k u}, P k u → P 0 u
  write : ∀ (i : Fin 8) {u}, P i u → P (i + 1) (u.given i)

variable [Transport σ]

/-- A setting that the chip refuses is not taken over. -/
lemma program_alters {i : Fin 8} {value : UInt8} {takeOver : Driver σ → Driver σ}
    {P Q F : Setup → Prop} (failed : ∀ u, P u → F u)
    (done : ∀ d : Driver σ, P d.setup → ∀ (bus : σ) (w : Integrity.Watch),
      w.shadow.values = d.watch.shadow.values.setIfInBounds i value →
        Q (takeOver { d with bus := bus, watch := w }).setup) :
    Alters P (do writeChecked (Register.checked.get i) value; Routine.update takeOver)
      (fun _ => Q) F := by
  intro d h
  rcases program_cases (Register.checked.get i) value takeOver d with ⟨text, refused⟩ | taken
  · rw [refused]
    exact failed _ h
  · rw [taken]
    exact done d h _ _ (Integrity.Watch.values_record_checked i value d.watch)

/-! ### Resets -/

namespace Progression

variable {P : Nat → Setup → Prop} (progression : Progression P)

include progression

/-- Registers whose content does not depend on a setting. -/
lemma writeChecked_alters (i : Fin 8) {value : UInt8} (other : i.val ≠ 5)
    (fixed : ∀ f : InForce, f.registers.get i = value) :
    Alters (P i) (writeChecked (σ := σ) (Register.checked.get i) value)
      (fun _ => P (i + 1)) (P 0) := by
  intro d h
  have written := progression.write i h
  simp only [Setup.given, if_neg other, fixed] at written
  cases result : (Transport.write (Register.checked.get i) value d.bus).1 with
  | error text =>
    rw [writeChecked_of_error result]
    exact progression.restart h
  | ok =>
    rw [writeChecked_of_ok result]
    have values := Integrity.Watch.values_record_checked i value d.watch
    simp only [setup, Interior.setup, interior, processing, values]
    exact written

/-- The rate that the configuration asks for. -/
lemma programRate_alters (d₀ : Driver σ) :
    Alters (fun u => d₀.setup = u ∧ P 2 u) (programRate (σ := σ) d₀.config.sampleRate)
      (fun _ => P 3) (P 0) := by
  refine program_alters (i := 2) (fun u h => progression.restart h.2) ?_
  intro d ⟨same, h⟩ bus w values
  have config : d₀.config = d.config := congrArg Setup.config same
  have rate : OutputRate.forHertz d₀.config.sampleRate = d.inForce.rate := by
    rw [config, show d.inForce = d.config.settings from (progression.coherent h).settings]
    rfl
  rw [rate] at values ⊢
  have written := progression.write 2 h
  simp only [setup, Interior.setup, interior, processing, values]
  exact written

/-- The cutoff that the configuration asks for. -/
lemma programOnChipFilter_alters (d₀ : Driver σ) :
    Alters (fun u => d₀.setup = u ∧ P 3 u) (programOnChipFilter (σ := σ) d₀.config.onChipCutoff)
      (fun _ => P 4) (P 0) := by
  refine program_alters (i := 3) (fun u h => progression.restart h.2) ?_
  intro d ⟨same, h⟩ bus w values
  have config : d₀.config = d.config := congrArg Setup.config same
  have filter : OnChipFilter.forCutoff d₀.config.onChipCutoff = d.inForce.onChipFilter := by
    rw [config, show d.inForce = d.config.settings from (progression.coherent h).settings]
    rfl
  rw [filter] at values ⊢
  rw [config]
  have written := progression.write 3 h
  simp only [setup, Interior.setup, interior, processing, values]
  exact written

/-- The full scale that the configuration asks for. -/
lemma programFullScale_alters (d₀ : Driver σ) :
    Alters (fun u => d₀.setup = u ∧ P 5 u) (programFullScale (σ := σ) d₀.config.rangeG)
      (fun _ => P 6) (P 0) := by
  refine program_alters (i := 5) (fun u h => progression.restart h.2) ?_
  intro d ⟨same, h⟩ bus w values
  have config : d₀.config = d.config := congrArg Setup.config same
  have settings : d.inForce = d.config.settings := (progression.coherent h).settings
  have scale : FullScale.covering d₀.config.rangeG = d.inForce.fullScale := by
    rw [config, settings]
    rfl
  have perCount : d.inForce.fullScale.scale = d.inForce.perCount.accel := by
    rw [settings]
    rfl
  rw [scale] at values ⊢
  rw [perCount]
  have written := progression.write 5 h
  simp only [setup, Interior.setup, interior, processing, values]
  exact written

omit [Transport σ] in
/-- The gyro has one scale only. -/
lemma gyroScale_alters :
    Alters (P 5) (Routine.update fun d : Driver σ => { d with inForce.perCount.gyro := gyroScale })
      (fun _ => P 5) (P 0) := by
  refine .update fun d h => ?_
  have settings : d.inForce = d.config.settings := (progression.coherent h).settings
  have perCount : gyroScale = d.inForce.perCount.gyro := by
    rw [settings]
    rfl
  rw [perCount]
  exact h

omit [Transport σ] in
/-- What leaves the interior is no part of the progression. -/
lemma untouched_alters {α : Type} {x : Routine σ α} (k : Nat) (hx : Leaves interior x) :
    Alters (P k) x (fun _ => P k) (P 0) :=
  .of_leaves (leaves_setup hx) fun _ => progression.restart

/-- A configuration writes the registers that follow the power register. -/
lemma configure_alters : Alters (P 1) (configure (σ := σ)) (fun _ => P 8) (P 0) := by
  have set (i : Fin 8) {value : UInt8} (other : i.val ≠ 5)
      (fixed : ∀ f : InForce, f.registers.get i = value) :
      Alters (P i) (writeChecked (σ := σ) (Register.checked.get i) value)
        (fun _ => P (i + 1)) (P 0) := progression.writeChecked_alters i other fixed
  have pause (k : Nat) (us : UInt64) :
      Alters (P k) (delay us : Routine σ Unit) (fun _ => P k) (P 0) :=
    progression.untouched_alters k (delay_leaves us)
  refine .bind (set 1 (by decide) fun _ => rfl) fun _ => .bind (pause 2 _) fun _ => ?_
  refine .bind .look fun d => .bind (progression.programRate_alters d) fun _ => ?_
  refine .bind (pause 3 _) fun _ => .bind .look fun d => ?_
  refine .bind (progression.programOnChipFilter_alters d) fun _ => .bind (pause 4 _) fun _ => ?_
  refine .bind (set 4 (by decide) fun _ => rfl) fun _ => ?_
  refine .bind progression.gyroScale_alters fun _ => .bind (pause 5 _) fun _ => ?_
  refine .bind .look fun d => .bind (progression.programFullScale_alters d) fun _ => ?_
  refine .bind (pause 6 _) fun _ => .bind (set 6 (by decide) fun _ => rfl) fun _ => ?_
  refine .bind (pause 7 _) fun _ => .bind (set 7 (by decide) fun _ => rfl) fun _ => ?_
  exact pause 8 _

/-- An attempt that takes has written the power register. -/
lemma tryReset_alters : Alters (P 0) (tryReset (σ := σ))
    (fun took u => P 0 u ∧ (took = true → P 1 u)) (P 0) := by
  refine .bind (progression.untouched_alters 0 (writeRaw_leaves _ _)) fun _ => ?_
  refine .bind (progression.untouched_alters 0 (delay_leaves _)) fun _ => ?_
  refine .bind (progression.untouched_alters 0 (readRegister_leaves _ _)) fun status => ?_
  split
  · exact fun d h => ⟨h, nofun⟩
  · have set : Alters (P 0) (writeChecked (σ := σ) Register.power Register.bestClock)
        (fun _ => P 1) (P 0) := progression.writeChecked_alters 0 (by decide) fun _ => rfl
    refine .bind set fun _ => .bind (progression.untouched_alters 1 (delay_leaves _)) fun _ => ?_
    refine .bind (progression.untouched_alters 1 (readRegister_leaves _ _)) fun source d h => ?_
    exact ⟨progression.restart h, fun _ => h⟩

lemma attemptResets_alters (number left : Nat) :
    Alters (P 0) (attemptResets (σ := σ) number left)
      (fun took u => P 0 u ∧ (took = true → P 1 u)) (P 0) := by
  induction left generalizing number with
  | zero => exact fun d h => ⟨h, nofun⟩
  | succ left ih =>
    have tried : Alters (P 0) (attempt (tryReset (σ := σ)))
        (fun result u => P 0 u ∧ (result = .ok true → P 1 u)) (P 0) := by
      intro d h
      have done := progression.tryReset_alters d h
      rw [attempt_apply]
      generalize tryReset d = r at done ⊢
      obtain ⟨cause | took, d'⟩ := r
      · exact ⟨done, nofun⟩
      · exact ⟨done.1, fun same => done.2 (Except.ok.inj same)⟩
    refine .bind tried fun result => ?_
    split
    · refine .of_start (P := P 1) (fun u h => h.2 rfl) ?_
      refine .bind (progression.untouched_alters 1 (note_leaves _)) fun _ d h => ?_
      exact ⟨progression.restart h, fun _ => h⟩
    · refine .of_start (P := P 0) (fun u h => h.1) ?_
      refine .bind (progression.untouched_alters 0 (note_leaves _)) fun _ => ?_
      refine .bind (progression.untouched_alters 0 (tally_leaves _)) fun _ => ?_
      exact .bind (progression.untouched_alters 0 (delay_leaves _)) fun _ => ih _

/-- A reset that succeeds has written all registers; one that fails may have written any of them. -/
lemma reset_alters : Alters (P 0) (reset (σ := σ)) (fun _ => P 8) (P 0) := by
  refine .bind (progression.attemptResets_alters 1 resetAttempts) fun took => ?_
  split
  · next took =>
    refine .of_start (P := P 1) (fun u h => h.2 took) ?_
    exact .bind progression.configure_alters fun _ => .update fun d h => h
  · refine .of_start (P := P 0) (fun u h => h.1) ?_
    exact .bind (progression.untouched_alters 0 (note_leaves _)) fun _ => .fail _ fun u h => h

lemma initialise_alters : Alters (P 0) (initialise (σ := σ)) (fun _ => P 8) (P 0) := by
  refine .bind (progression.untouched_alters 0 probe_leaves) fun _ => ?_
  refine .bind progression.reset_alters fun _ => ?_
  refine .bind (progression.untouched_alters 8 .look) fun d => ?_
  exact progression.untouched_alters 8 (note_leaves _)

end Progression

end Driver

end InertialSensor
