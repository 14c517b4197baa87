import InertialSensor.Proofs.Binary32.Rounding
import InertialSensor.Proofs.Integrity.Faithful
import InertialSensor.Proofs.Signal.Streams
import InertialSensor.Simulation.Sensor

/-!
# When the chip's filter is bypassed

A cutoff is given to the chip's filter in whole hertz, and zero hertz stand for no filter. So the
filter is bypassed for cutoffs above the highest one and for a cutoff of zero, but also for all the
cutoffs between zero and one hertz, of which nothing is left without their fraction. Every other
cutoff is heeded (`heeds_iff`). The same goes for the cutoff of the gyro when a new poll interval
gives it to the chip once more, since it is kept by whatever is asked of the driver in between.
-/

namespace InertialSensor

open Binary32

/-! ### The ladder of cutoffs -/

namespace OnChipFilter

/-- The cutoffs that the chip's filter has, in hertz. -/
def supported : Set Nat := {f | ∃ s : OnChipFilter, s.cutoff? = some f}

lemma le_of_supported {f : Nat} (h : f ∈ supported) : f ≤ 188 := by
  obtain ⟨s, hs⟩ := h
  cases s <;> simp [cutoff?] at hs <;> omega

lemma bypass_iff_forCutoff (hz : Nat) : forCutoff hz = bypass ↔ hz = 0 ∨ 188 < hz := by
  unfold forCutoff
  split_ifs <;> simp <;> omega

/-- The setting for a request has the lowest cutoff at or above it. -/
lemma isLeast_forCutoff {hz f : Nat} (h : (forCutoff hz).cutoff? = some f) :
    IsLeast {f | f ∈ supported ∧ hz ≤ f} f := by
  refine ⟨⟨⟨_, h⟩, ?_⟩, ?_⟩
  · unfold forCutoff at h
    split_ifs at h <;> simp [cutoff?] at h <;> omega
  · rintro g ⟨⟨s, hs⟩, above⟩
    unfold forCutoff at h
    split_ifs at h <;> simp [cutoff?] at h <;> cases s <;> simp [cutoff?] at hs <;> omega

end OnChipFilter

/-! ### Cutoffs as numbers -/

/-- A frequency is at or above the whole hertz of a cutoff. -/
def Covers (c : Float32) (f : Nat) : Prop := c.isFinite = true ∧ ⌊value c⌋₊ ≤ f

/-- A setting of the chip's filter does justice to a cutoff: it is bypassed only for a cutoff of
zero and for one above the highest that it has; and otherwise it has the lowest cutoff at or above
the whole hertz that were asked for. -/
structure OnChipFilter.Heeds (s : OnChipFilter) (c : Float32) : Prop where
  bypassed : s = .bypass → (c == 0) = true ∨ 188 < c
  least : ∀ f, s.cutoff? = some f → IsLeast {f | f ∈ supported ∧ Covers c f} f

/-- A cutoff that is a number and not below zero. -/
inductive IsCutoff (c : Float32) : Prop where
  | zero (sign : Float.Model.UnpackedFloat.Sign) (h : c.toModel.unpack = .zero sign)
  | infinite (h : c.toModel.unpack = .infinity .positive)
  | above (finite : c.isFinite = true) (positive : 0 < value c)

namespace IsCutoff

variable {c : Float32}

lemma of_accepted (number : c.isNaN ≠ true) (notBelow : ¬ c < 0) : IsCutoff c := by
  change c.toModel.unpack.isNaN ≠ true at number
  rw [lt_iff, unpack_zero] at notBelow
  cases h : c.toModel.unpack with
  | notANumber => exact absurd (h ▸ rfl) number
  | zero s => exact .zero s h
  | infinity s =>
    cases s with
    | positive => exact .infinite h
    | negative => exact absurd (h ▸ rfl) notBelow
  | finite s m e some =>
    have finite : c.isFinite = true := by
      show c.toModel.unpack.isFinite = true
      rw [h]
      rfl
    cases s with
    | positive =>
      refine .above finite ?_
      rw [value, h]
      simp only [exact, signum]
      positivity
    | negative => exact absurd (h ▸ rfl) notBelow

section

variable (finite : c.isFinite = true)
include finite

/-- Nothing is left of a cutoff below one hertz without its fraction. -/
lemma bypassed_of_fraction (positive : 0 < value c) (below : value c < 1) :
    OnChipFilter.forCutoff (wholeHertz c) = .bypass ∧
      ¬(OnChipFilter.forCutoff (wholeHertz c)).Heeds c := by
  have highest : IsWhole 188 188 := isWhole_ofNat (n := 188) (by norm_num)
  have none : wholeHertz c = 0 := by
    rw [wholeHertz_eq finite positive.le, Nat.floor_eq_zero.2 below]
    rfl
  rw [none]
  refine ⟨rfl, fun heeds => ?_⟩
  obtain zero | above := heeds.bypassed rfl
  · exact positive.ne' (value_of_beq_zero zero)
  · rw [highest.gt_iff finite] at above
    push_cast at above
    linarith

/-- Of every higher cutoff enough is left. -/
lemma heeds_of_digits (above : 1 ≤ value c) :
    (OnChipFilter.forCutoff (wholeHertz c)).Heeds c := by
  have highest : IsWhole 188 188 := isWhole_ofNat (n := 188) (by norm_num)
  have nonneg : 0 ≤ value c := zero_le_one.trans above
  have digits : 1 ≤ ⌊value c⌋₊ := Nat.le_floor (by exact_mod_cast above)
  have whole : wholeHertz c = min ⌊value c⌋₊ 65535 := wholeHertz_eq finite nonneg
  refine ⟨fun bypassed => .inr ?_, fun f has => ?_⟩
  · have high := (OnChipFilter.bypass_iff_forCutoff _).1 bypassed
    have high : 189 ≤ ⌊value c⌋₊ := by omega
    have high : (189 : ℚ) ≤ value c := by exact_mod_cast (Nat.le_floor_iff nonneg).1 high
    rw [highest.gt_iff finite]
    push_cast
    linarith
  · have least := OnChipFilter.isLeast_forCutoff has
    -- The largest word is above all that the filter has, so that no request goes past it.
    have same : {f | f ∈ OnChipFilter.supported ∧ wholeHertz c ≤ f} =
        {f | f ∈ OnChipFilter.supported ∧ Covers c f} := by
      ext g
      refine and_congr_right fun has => ?_
      have := OnChipFilter.le_of_supported has
      rw [Covers, and_iff_right finite]
      omega
    exact same ▸ least

end

/-- The chip's filter is set so that it does justice to every cutoff, except those of which nothing
is left without their fraction: for these it is bypassed. -/
lemma heeds_iff (h : IsCutoff c) :
    ((OnChipFilter.forCutoff (wholeHertz c)).Heeds c ↔ ¬(0 < c ∧ c < 1)) ∧
      (0 < c ∧ c < 1 → OnChipFilter.forCutoff (wholeHertz c) = .bypass) := by
  cases h with
  | zero s h =>
    have none : wholeHertz c = 0 := by
      show (c.toModel.unpack.toUInt16).toNat = 0
      rw [h]
      rfl
    have still : ¬ 0 < c := by
      rw [lt_iff, unpack_zero, h]
      exact Bool.false_ne_true
    have same : (c == 0) = true := by
      show c.toModel.unpack.beq (0 : Float32).toModel.unpack = true
      rw [unpack_zero, h]
      rfl
    rw [none]
    exact ⟨iff_of_true ⟨fun _ => .inl same, nofun⟩ fun both => still both.1, fun _ => rfl⟩
  | infinite h =>
    have above : 188 < c := by
      rw [lt_iff, h]
      rfl
    have far : ¬ c < 1 := by
      rw [lt_iff, h]
      exact Bool.false_ne_true
    rw [wholeHertz_of_infinite h]
    exact ⟨iff_of_true ⟨fun _ => .inr above, nofun⟩ fun both => far both.2, fun _ => rfl⟩
  | above finite positive =>
    have zero : IsWhole 0 0 := isWhole_ofNat (n := 0) (by norm_num)
    have one : IsWhole 1 1 := isWhole_ofNat (n := 1) (by norm_num)
    rw [zero.gt_iff finite, one.lt_iff finite, Int.cast_zero, Int.cast_one]
    obtain below | above := lt_or_ge (value c) 1
    · obtain ⟨bypassed, unheeded⟩ := bypassed_of_fraction finite positive below
      exact ⟨iff_of_false unheeded (not_not_intro ⟨positive, below⟩), fun _ => bypassed⟩
    · have digits : ¬(0 < value c ∧ value c < 1) := fun both => both.2.not_ge above
      exact ⟨iff_of_true (heeds_of_digits finite above) digits, fun both => absurd both digits⟩

end IsCutoff

/-! ### Giving cutoffs to the chip -/

namespace Driver

open Routine

variable {σ : Type}

/-- The setting of the chip's filter that is in force was written to its register in one write, is
what the shadow keeps for the register, and does justice to a cutoff, unless that is between zero
and one hertz: for such a cutoff the filter is bypassed. -/
structure Programmed (before after : Driver (Recorder σ)) (c : Float32) : Prop where
  written : after.bus.writes =
    (Register.filterConfig, after.inForce.onChipFilter.registerValue) :: before.bus.writes
  recorded : after.watch.shadow.expected? Register.filterConfig =
    some after.inForce.onChipFilter.registerValue
  heeds : after.inForce.onChipFilter.Heeds c ↔ ¬(0 < c ∧ c < 1)
  bypassed : 0 < c ∧ c < 1 → after.inForce.onChipFilter = .bypass

variable [Transport σ]

/-- The cutoff that a step gives to a stream, if it gives it one. -/
def Step.cutoff? (c : Channel) (s : Step (Recorder σ)) : Option Float32 :=
  match s.operation with
  | .setLowPass c' hz => if c' = c ∧ s.answer.isOk then some hz else none
  | _ => none

lemma Step.cutoff?_of_taken {channel : Channel} {c : Float32} {d : Driver (Recorder σ)}
    (taken : (perform (.setLowPass channel c) d).1.isOk = true) :
    (⟨.setLowPass channel c, d⟩ : Step (Recorder σ)).cutoff? channel = some c :=
  if_pos ⟨rfl, taken⟩

lemma Step.cutoff?_of_undesigned {c : Channel} {s : Step (Recorder σ)}
    (undesigned : s.redesign? c = none) : s.cutoff? c = none := by
  obtain ⟨op, d⟩ := s
  cases op with
  | setLowPass c' hz =>
    simp only [redesign?, cutoff?, ite_eq_right_iff] at undesigned ⊢
    exact fun both => absurd (undesigned both) (Option.some_ne_none _)
  | _ => rfl

lemma Step.cutoff_of_designed {c : Channel} {s : Step (Recorder σ)} {design : Design}
    (designed : s.redesign? c = some design) :
    design.cutoff = (s.cutoff? c).getD (s.before.streams.get c).cutoff := by
  obtain ⟨op, d⟩ := s
  cases op with
  | setPollInterval us =>
    obtain ⟨-, same⟩ := Option.ite_none_left_eq_some.1 designed
    cases same
    rfl
  | setLowPass c' hz =>
    obtain ⟨⟨rfl, taken⟩, same⟩ := Option.ite_none_right_eq_some.1 designed
    cases same
    rw [cutoff?_of_taken taken]
    rfl
  | _ => cases designed

/-- A stream keeps its cutoff until it is given another one. -/
lemma Step.cutoff_after (c : Channel) (s : Step (Recorder σ)) :
    (s.after.streams.get c).cutoff = (s.cutoff? c).getD (s.before.streams.get c).cutoff := by
  have first (d : Driver (Recorder σ)) :
      (d.streams.get c).cutoff = (d.setup.filters.get c).x.cutoff := by
    rw [filters_setup]
    rfl
  cases Handling.of_step c s with
  | idle _ undesigned filters =>
    rw [cutoff?_of_undesigned undesigned, first, first, filters]
    rfl
  | redesigned _ designed filters =>
    rw [← cutoff_of_designed designed, first, filters]
    exact LowPass.cutoff_redesign ..
  | reported _ undesigned _ filters =>
    rw [cutoff?_of_undesigned undesigned, first, first, filters]
    show (LowPass.apply _ _).2.cutoff = _
    rw [LowPass.apply_eq]
    rfl

lemma cutoff_performAll {c : Channel} {ops : List Operation} {d : Driver (Recorder σ)}
    (kept : ∀ s ∈ history ops d, s.cutoff? c = none) :
    ((performAll ops d).2.streams.get c).cutoff = (d.streams.get c).cutoff := by
  induction ops generalizing d with
  | nil => rfl
  | cons op ops ih =>
    have first := Step.cutoff_after c ⟨op, d⟩
    rw [kept ⟨op, d⟩ List.mem_cons_self] at first
    exact (ih fun s member => kept s (List.mem_cons_of_mem _ member)).trans first

/-- The chip's filter is programmed for a cutoff in one write, if that succeeds. -/
lemma programmed_of_ok {d d' : Driver (Recorder σ)} {c : Float32} (cutoff : IsCutoff c)
    (h : programOnChipFilter (wholeHertz c) d = (.ok (), d')) : Programmed d d' c := by
  rw [programOnChipFilter] at h
  cases result : (Transport.write Register.filterConfig
      (OnChipFilter.forCutoff (wholeHertz c)).registerValue d.bus).1 with
  | error text =>
    rw [bind_of_error _ (writeChecked_of_error result)] at h
    cases h
  | ok =>
    rw [bind_of_ok _ (writeChecked_of_ok result)] at h
    cases h
    have checked : (Register.checkedIndex? Register.filterConfig).isSome :=
      congrArg Option.isSome (Register.checkedIndex?_checked 3)
    exact ⟨Recorder.writes_of_ok result, Integrity.Shadow.expected?_record_self _ _ checked,
      cutoff.heeds_iff.1, cutoff.heeds_iff.2⟩

omit [Transport σ] in
/-- What comes after the write does not touch the chip's filter again. -/
lemma Programmed.of_same {before after after' : Driver (Recorder σ)} {c : Float32}
    (h : Programmed before after c) (bus : after'.bus = after.bus)
    (inForce : after'.inForce = after.inForce) (watch : after'.watch = after.watch) :
    Programmed before after' c := by
  obtain ⟨written, recorded, heeds, bypassed⟩ := h
  rw [← inForce] at written recorded heeds bypassed
  exact ⟨bus ▸ written, watch ▸ recorded, heeds, bypassed⟩

/-- A cutoff that is accepted is given to the chip, and then to the stream. -/
lemma programmed_of_setLowPass {channel : Channel} {c : Float32} {d : Driver (Recorder σ)}
    (success : (perform (.setLowPass channel c) d).1.isOk = true) :
    IsCutoff c ∧ Programmed d (perform (.setLowPass channel c) d).2 c := by
  have took : setLowPass channel c d = (.ok (), (perform (.setLowPass channel c) d).2) :=
    eq_of_answered success
  generalize (perform (.setLowPass channel c) d).2 = d' at took ⊢
  unfold setLowPass at took
  split at took
  · cases took
  · next accepted =>
    obtain ⟨number, notBelow⟩ := not_or.1 accepted
    have cutoff := IsCutoff.of_accepted number notBelow
    obtain ⟨⟨⟩, d₁, programmed, rest⟩ := bind_eq_ok_iff.1 took
    cases rest
    exact ⟨cutoff, (programmed_of_ok cutoff programmed).of_same rfl rfl rfl⟩

/-- A poll interval gives the cutoff of the gyro to the chip once more. -/
lemma programmed_of_setPollInterval {us : UInt64} {d : Driver (Recorder σ)} (periodic : us ≠ 0)
    (cutoff : IsCutoff d.streams.gyro.cutoff)
    (success : (perform (.setPollInterval us) d).1.isOk = true) :
    Programmed d (perform (.setPollInterval us) d).2 d.streams.gyro.cutoff := by
  have took : setPollInterval us d = (.ok (), (perform (.setPollInterval us) d).2) :=
    eq_of_answered success
  generalize (perform (.setPollInterval us) d).2 = d' at took ⊢
  rw [setPollInterval_of_periodic periodic] at took
  obtain ⟨written, recorded, heeds, bypassed⟩ := programmed_of_ok cutoff took
  exact ⟨written, recorded, heeds, bypassed⟩

/-- When a cutoff is accepted for either stream, in whatever state, the setting of the chip's filter
that is then in force was written to the chip in one write and is kept in the shadow; and it does
justice to the cutoff if and only if that is not between zero and one hertz. For a cutoff between
them the filter is bypassed. The same holds when a poll interval gives the cutoff of the gyro to the
chip once more, whatever was asked of the driver in between, as long as it was not another cutoff
for the gyro that was accepted. -/
theorem onChipFilter_heeds_iff (bus : σ) (clock : Clock) (config : Configuration)
    (ops : List Operation) (channel : Channel) (c : Float32) :
    let d := (performAll ops (.new (⟨bus, []⟩ : Recorder σ) clock config)).2
    let given := (perform (.setLowPass channel c) d).2
    (perform (.setLowPass channel c) d).1.isOk = true →
      Programmed d given c ∧
      (channel = .gyro → ∀ later us, us ≠ 0 → (∀ s ∈ history later given, s.cutoff? .gyro = none) →
        let before := (performAll later given).2
        (perform (.setPollInterval us) before).1.isOk = true →
          before.streams.gyro.cutoff = c ∧
            Programmed before (perform (.setPollInterval us) before).2 c) := by
  intro d given success
  obtain ⟨cutoff, programmed⟩ := programmed_of_setLowPass success
  refine ⟨programmed, ?_⟩
  rintro rfl later us periodic kept before retimed
  have first : given.streams.gyro.cutoff = c := by
    have taken := Step.cutoff_after .gyro (⟨.setLowPass .gyro c, d⟩ : Step (Recorder σ))
    rw [Step.cutoff?_of_taken success] at taken
    exact taken
  have still : before.streams.gyro.cutoff = c := (cutoff_performAll kept).trans first
  have again := programmed_of_setPollInterval periodic (still ▸ cutoff) retimed
  rw [still] at again
  exact ⟨still, again⟩

/-- A cutoff of fifteen hertz for the gyro of a sensor that was brought up, and a poll interval
after a cycle: both program the cutoff of twenty hertz. -/
theorem onChipFilter_heeds_fifteen :
    let start := Driver.new (⟨Simulation.Sensor.new .internal, []⟩ : Recorder _) .start {}
    let d := (performAll [.initialise] start).2
    let given := (perform (.setLowPass .gyro 15) d).2
    let before := (performAll [.measure] given).2
    let retimed := (perform (.setPollInterval 1000) before).2
    (perform (.setLowPass .gyro 15) d).1.isOk = true ∧
      (perform (.setPollInterval 1000) before).1.isOk = true ∧
      Programmed d given 15 ∧ Programmed before retimed 15 ∧
      given.inForce.onChipFilter = .hz20 ∧ retimed.inForce.onChipFilter = .hz20 := by
  intro start d given before retimed
  have accepted : (perform (.setLowPass .gyro 15) d).1.isOk = true := by decide +kernel
  have timed : (perform (.setPollInterval 1000) before).1.isOk = true := by decide +kernel
  have setting : given.inForce.onChipFilter = .hz20 := by decide +kernel
  have setting' : retimed.inForce.onChipFilter = .hz20 := by decide +kernel
  have kept : ∀ s ∈ history [.measure] given, s.cutoff? .gyro = none := by
    intro s member
    rw [history, history, List.mem_singleton] at member
    rw [member]
    rfl
  have heeds := onChipFilter_heeds_iff (Simulation.Sensor.new .internal) .start {} [.initialise]
    .gyro 15 accepted
  exact ⟨accepted, timed, heeds.1, (heeds.2 rfl [.measure] 1000 (by decide) kept timed).2, setting,
    setting'⟩

/-- A cutoff of half a hertz is accepted, and the chip's filter is bypassed, although a cutoff of
five hertz is there. -/
theorem bypassed_for_half_hertz :
    let start := Driver.new (⟨Simulation.Sensor.new .internal, []⟩ : Recorder _) .start {}
    let begun := (perform .initialise start).2
    let d := (perform (.setLowPass .gyro 0.5) begun).2
    (perform .initialise start).1.isOk = true ∧
      (perform (.setLowPass .gyro 0.5) begun).1.isOk = true ∧
      d.inForce.onChipFilter = .bypass ∧ ¬d.inForce.onChipFilter.Heeds 0.5 := by
  intro start begun d
  have bypassed : d.inForce.onChipFilter = .bypass := by decide +kernel
  refine ⟨by decide +kernel, by decide +kernel, bypassed, fun heeds => ?_⟩
  exact (heeds.bypassed bypassed).elim (by decide +kernel) (by decide +kernel)

end Driver

end InertialSensor
