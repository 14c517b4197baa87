import InertialSensor.Proofs.Driver.Reports
import InertialSensor.Proofs.Integrity.Faithful
import InertialSensor.Proofs.Settings.Rewriting

/-!
# Settings stay coherent

Each setting is kept in several places: as the configuration asks for it, as it is in force, as the
content that its register should have, and in the filters. No operation brings these places apart,
whatever fails on the way (`Standing.perform`). A bring-up that succeeds makes all registers known,
and they stay so (`Standing 8`).
-/

namespace InertialSensor

lemma FullScale.covering_multiple (s : FullScale) : covering s.multiple = s := by
  cases s <;> decide

lemma FullScale.ofRegisterValue_registerValue (s : FullScale) :
    ofRegisterValue s.registerValue = s := by
  cases s <;> decide

namespace Driver

open Routine

variable {σ : Type} {u u' : Setup} {n m : Nat}

/-! ### Registers that are known -/

/-- A coherent setup in which the shadow keeps for the first `n` checked registers what the settings
in force ask for. With the register of the full scale the configuration names the full scale as it
is in force. -/
structure Standing (n : Nat) (u : Setup) : Prop extends Coherent u where
  values : ∀ i : Fin 8, i.val < n → u.values.get i = u.inForce.registers.get i
  range : 5 < n → u.config.rangeG = u.inForce.fullScale.multiple

lemma Standing.mono (h : Standing m u) (fewer : n ≤ m) : Standing n u where
  toCoherent := h.toCoherent
  values i below := h.values i (below.trans_le fewer)
  range below := h.range (below.trans_le fewer)

lemma get_setIfInBounds (v : Vector UInt8 8) (i j : Fin 8) (value : UInt8) :
    (v.setIfInBounds i value).get j = if i = j then value else v.get j := by
  rw [Vector.get_eq_getElem, Vector.getElem_setIfInBounds, Vector.get_eq_getElem]
  simp only [Fin.ext_iff]

/-- A setting that is taken over changes the content of one register. -/
lemma Standing.taken {i : Fin 8} {value : UInt8} (h : Standing n u) (coherent : Coherent u')
    (values : u'.values = u.values.setIfInBounds i value)
    (registers : u'.inForce.registers = u.inForce.registers.setIfInBounds i value)
    (range : u.config.rangeG = u.inForce.fullScale.multiple →
      u'.config.rangeG = u'.inForce.fullScale.multiple) : Standing n u' where
  toCoherent := coherent
  values j below := by
    rw [values, registers, get_setIfInBounds, get_setIfInBounds]
    split
    · rfl
    · exact h.values j below
  range below := range (h.range below)

/-! ### Resets -/

lemma Coherent.given (h : Coherent u) (i : Fin 8) : Coherent (u.given i) where
  settings := by
    have scale : FullScale.covering u.config.rangeG = u.inForce.fullScale := by
      rw [h.settings]
      rfl
    have same : FullScale.covering (u.given i).config.rangeG =
        FullScale.covering u.config.rangeG := by
      simp only [Setup.given]
      split
      · rw [scale, FullScale.covering_multiple]
      · rfl
    refine h.settings.trans ?_
    simp only [Configuration.settings, same]
    rfl
  filters := h.filters

/-- A reset makes known one register after the other. -/
lemma standing_progression (n : Nat) : Progression fun k => Standing (max n k) where
  coherent h := h.toCoherent
  restart h := h.mono (by omega)
  write i u h :=
    { toCoherent := h.toCoherent.given i
      values := fun j below => by
        have content : (u.given i).values.get j =
            if i = j then u.inForce.registers.get i else u.values.get j := get_setIfInBounds ..
        rw [content]
        split
        · next same => rw [← same]; rfl
        · next other =>
          have apart : i.val ≠ j.val := fun same => other (Fin.ext same)
          exact h.values j (by omega)
      range := fun below => by
        by_cases last : i.val = 5
        · simp [Setup.given, last]
        · simp only [Setup.given, if_neg last]
          exact h.range (by omega) }

/-! ### Settings -/

variable [Transport σ]

lemma setSampleRate_alters (n : Nat) (hz : Nat) : Alters (Standing n)
    (setSampleRate (σ := σ) hz) (fun _ => Standing n) (Standing n) := by
  refine .bind (Q := fun _ u => Standing n { u with config.sampleRate := hz })
    (program_alters (i := 2) (fun _ h => h) ?_) fun _ => .update fun d h => h
  intro d h bus w values
  refine h.taken ⟨?_, h.filters⟩ values rfl fun range => range
  have settings : d.inForce = d.config.settings := h.settings
  change { d.inForce with rate := .forHertz hz } = _
  rw [settings]
  rfl

lemma programOnChipFilter_standing (n : Nat) (hz : Nat) : Alters (Standing n)
    (programOnChipFilter (σ := σ) hz) (fun _ => Standing n) (Standing n) := by
  refine program_alters (i := 3) (fun _ h => h) ?_
  intro d h bus w values
  refine h.taken ⟨?_, h.filters⟩ values rfl fun range => range
  have settings : d.inForce = d.config.settings := h.settings
  change { d.inForce with onChipFilter := .forCutoff hz } = _
  rw [settings]
  rfl

lemma programFullScale_standing (n : Nat) (g : Nat) : Alters (Standing n)
    (programFullScale (σ := σ) g) (fun _ => Standing n) (Standing n) := by
  refine program_alters (i := 5) (fun _ h => h) ?_
  intro d h bus w values
  refine h.taken ⟨?_, h.filters⟩ values rfl fun _ => rfl
  have settings : d.inForce = d.config.settings := h.settings
  change { d.inForce with
    fullScale := .covering g
    perCount.accel := (FullScale.covering g).scale } = _
  rw [settings]
  change _ = { d.config with rangeG := (FullScale.covering g).multiple }.settings
  simp only [Configuration.settings, FullScale.covering_multiple]

omit [Transport σ] in
/-- The filters of a stream have the cutoff that the configuration asks for. -/
lemma Coherent.cutoff {d : Driver σ} (h : Coherent d.setup) (c : Channel) :
    (d.streams.get c).cutoff = d.config.cutoffs.get c := by
  obtain ⟨_, _, same⟩ := h.filters c
  rw [filters_setup] at same
  exact (same .x).1

lemma setPollInterval_alters (n : Nat) (us : UInt64) : Alters (Standing n)
    (setPollInterval (σ := σ) us) (fun _ => Standing n) (Standing n) := by
  refine .bind (Q := fun _ => Standing n) (.update fun d h => h) fun _ => ?_
  split
  · exact .of_leaves (.pure _) fun _ h => h
  · refine .bind (Q := fun _ => Standing n) (.update fun d h => ?_) fun _ => ?_
    · refine ⟨⟨h.settings, fun c => ?_⟩, h.values, h.range⟩
      have design := h.filters c
      rw [filters_setup] at design ⊢
      rw [PerChannel.get_map]
      exact h.toCoherent.cutoff c ▸ design.redesign _ _
    · exact .bind (.of_leaves .look fun _ h => h) fun d => programOnChipFilter_standing n _

lemma setLowPass_alters (n : Nat) (c : Channel) (hz : Float32) : Alters (Standing n)
    (setLowPass (σ := σ) c hz) (fun _ => Standing n) (Standing n) := by
  unfold setLowPass
  split
  · exact .fail _ fun _ h => h
  · refine .bind (programOnChipFilter_standing n _) fun _ => ?_
    refine .bind (.of_leaves .look fun _ h => h) fun d => ?_
    -- between the two updates the cutoff in the configuration is not yet that of the filters
    intro d' h
    refine ⟨⟨h.settings, fun c' => ?_⟩, h.values, h.range⟩
    have design := h.filters c'
    rw [filters_setup] at design ⊢
    change LowPass.OneDesign ((d'.config.cutoffs.modify c fun _ => hz).get c')
      ((d'.streams.modify c (·.redesign d.filterRate hz)).get c').filters
    by_cases same : c' = c
    · subst same
      rw [PerChannel.get_modify_same, PerChannel.get_modify_same]
      exact design.redesign _ _
    · rw [PerChannel.get_modify_of_ne _ _ same, PerChannel.get_modify_of_ne _ _ same]
      exact design

/-! ### Operations -/

omit [Transport σ] in
lemma standing_new (bus : σ) (clock : Clock) (config : Configuration) :
    Standing 0 (new bus clock config).setup := by
  refine ⟨⟨rfl, fun c => ?_⟩, nofun, nofun⟩
  rw [filters_setup, filters_new]
  exact LowPass.oneDesign_design ..

/-- A cycle leaves the settings alone, and filters keep their design. -/
lemma Standing.passage {p : Passage σ} (h : Standing n p.before.setup) :
    Standing n p.after.setup := by
  cases samples : p.samples with
  | false =>
    have same : p.after.setup = p.before.setup := (p.interior_of_unsampled samples).setup
    exact same ▸ h
  | true =>
    obtain ⟨d, sample, same, -, after⟩ := p.exists_sample samples
    have start : d.setup = p.before.setup := same.setup
    rw [← start] at h
    rw [after, setup_accept]
    refine ⟨⟨h.settings, fun c => ?_⟩, h.values, h.range⟩
    change LowPass.OneDesign _ ((d.accept sample).2.setup.filters.get c)
    rw [filters_setup, stream_accept, filters_making]
    exact (h.filters c).apply _

/-- No operation brings a setup that stands apart, whether it succeeds or fails. -/
lemma Standing.perform {d : Driver σ} (h : Standing n d.setup) (op : Operation) :
    Standing n (perform op d).2.setup := by
  have altered {α : Type} {x : Routine σ α} {f : α → Answer}
      (hx : Alters (Standing n) x (fun _ => Standing n) (Standing n)) :
      Standing n ((do pure (f (← x)) : Routine σ Answer) d).2.setup := by
    rw [(answered x f d).1]
    exact hx.keeps h
  have again {α : Type} {x : Routine σ α}
      (hx : Alters (Standing (max n 0)) x (fun _ => Standing (max n 8)) (Standing (max n 0))) :
      Alters (Standing n) x (fun _ => Standing n) (Standing n) := by
    rw [Nat.max_zero] at hx
    intro d h
    have done := hx d h
    generalize x d = r at done ⊢
    obtain ⟨_ | _, _⟩ := r
    · exact done
    · exact done.mono (le_max_left n 8)
  let s : Step σ := ⟨op, d⟩
  change Standing n s.after.setup
  cases within : s.passage? with
  | some p =>
    obtain ⟨before, after⟩ := Step.setup_around within
    rw [after]
    exact Standing.passage (before ▸ h)
  | none =>
    cases adjusts : op.adjusts with
    | false => exact (Step.setup_of_plain within adjusts) ▸ h
    | true =>
      cases op with
      | initialise => exact altered (again (standing_progression n).initialise_alters)
      | reset => exact altered (again (standing_progression n).reset_alters)
      | setPollInterval us => exact altered (setPollInterval_alters n us)
      | setLowPass c hz => exact altered (setLowPass_alters n c hz)
      | setSampleRate hz => exact altered (setSampleRate_alters n hz)
      | setFullScale g => exact altered (programFullScale_standing n g)
      | _ => cases adjusts

lemma Standing.performAll {d : Driver σ} (h : Standing n d.setup) (ops : List Operation) :
    Standing n (performAll ops d).2.setup := by
  induction ops generalizing d with
  | nil => exact h
  | cons op ops ih => exact ih (h.perform op)

/-- A bring-up that succeeds makes all registers known. -/
lemma standing_of_initialise {d : Driver σ} (h : Standing 0 d.setup)
    (success : (perform .initialise d).1.isOk = true) :
    Standing 8 (perform .initialise d).2.setup := by
  have state : (perform .initialise d).2 = (initialise d).2 := (answered ..).1
  rw [state]
  exact (standing_progression 0).initialise_alters.of_ok h (ok_of_answered success)

end Driver

end InertialSensor
