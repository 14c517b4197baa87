import InertialSensor.Proofs.Driver.History

/-!
# What every run keeps

An `Invariant` is a property of the state that each touch and each stage of a cycle keeps; every run
then keeps it. Two invariants are of general use: what `Sound` says of the watch, and properties of
the bus that transfers keep (`BusInvariant`).

A state is `Ready` if it can occur after the sensor was brought up successfully, over whatever bus;
the bus that it goes on with may be another one.
-/

namespace InertialSensor.Driver

open Routine

variable {σ : Type}

/-! ### The watch -/

/-- Registers are verified, no more than the whole count of transfers is to be withheld, and
restoring the clock source does not reset the chip. -/
structure Sound (d : Driver σ) : Prop where
  verifies : d.config.verifies = true
  settling : d.watch.settling ≤ Integrity.settleCount
  clock : IsSetting Register.power (d.watch.shadow.values.get 0)

lemma Sound.of_same {d d' : Driver σ} (h : Sound d)
    (verifies : d'.config.verifies = d.config.verifies)
    (settling : d'.watch.settling ≤ d.watch.settling)
    (values : d'.watch.shadow.values = d.watch.shadow.values) : Sound d' where
  verifies := verifies.trans h.verifies
  settling := settling.trans h.settling
  clock := values ▸ h.clock

lemma sound_new (bus : σ) (clock : Clock) {config : Configuration} (h : config.verifies = true) :
    Sound (.new bus clock config) := by
  refine ⟨h, Nat.zero_le _, fun _ => ?_⟩
  change (0 : UInt8) &&& Register.resetBit = 0
  decide

/-! ### Invariants -/

section

variable [Transport σ]

/-- A property of the state that everything a driver does keeps. -/
structure Invariant (I : Driver σ → Prop) : Prop where
  touch : ∀ {d d'}, Touch True d d' → I d → I d'
  clear : ∀ {d}, I d → I { d with watch := d.watch.clear }
  restoration : ∀ {d d' result}, Restoration d result d' → I d → I d'
  counting : ∀ {d}, I d → I d.countedCycle
  fetching : ∀ {d d' result}, Fetching d result d' → I d → I d'
  verification : ∀ {d d'}, Verification d d' → I d → I d'
  digestion : ∀ {d d' block outcome}, Digestion block d outcome d' → I d → I d'

namespace Invariant

variable {I : Driver σ → Prop} (kept : Invariant I) {d d' : Driver σ}

include kept

lemma quiet {resetting : Prop} (quiet : Quiet resetting d d') (h : I d) : I d' :=
  (quiet.mono fun _ => trivial).keeps kept.touch h

lemma course {outcome : Except Failure Cycle} (course : Course d outcome d') (h : I d) : I d' :=
  course.keeps kept.restoration kept.counting kept.fetching kept.verification kept.digestion h

lemma perform (op : Operation) (h : I d) : I (perform op d).2 := by
  cases Progress.of_step ⟨op, d⟩ with
  | quiet _ _ quiet => exact kept.quiet quiet h
  | reset _ _ first last => exact kept.quiet last (kept.clear (kept.quiet first h))
  | cycle _ _ first last =>
    exact kept.quiet last (kept.course (Course.of_measure _) (kept.quiet first h))

lemma performAll (ops : List Operation) (h : I d) : I (performAll ops d).2 := by
  induction ops generalizing d with
  | nil => exact h
  | cons op ops ih => exact ih (kept.perform op h)

end Invariant

/-! ### The bus -/

/-- A property of the bus that every transfer keeps. -/
structure BusInvariant (B : σ → Prop) : Prop where
  read : ∀ {n : Nat} (address : UInt8) (speed : Speed) (buffer : Vector UInt8 n) {bus : σ},
    B bus → B (Transport.read address speed buffer bus).2
  write : ∀ (address value : UInt8) {bus : σ}, B bus → B (Transport.write address value bus).2

lemma BusInvariant.invariant {B : σ → Prop} (kept : BusInvariant B) :
    Invariant fun d : Driver σ => B d.bus where
  touch touch h := by
    cases touch with
    | aside aside => exact aside.bus ▸ h
    | read address speed buffer => exact kept.read address speed buffer h
    | refused | written | reset => exact kept.write _ _ h
  clear h := h
  restoration restored h := by
    cases restored with
    | notDue => exact h
    | failed | done => exact kept.write _ _ h
  counting h := h
  fetching fetched h := by cases fetched with | failed | fetched => exact kept.read _ _ _ h
  verification verified h := by
    cases verified with
    | unread | right => exact kept.read _ _ _ h
    | reset | repair => exact kept.write _ _ (kept.read _ _ _ h)
  digestion digested h := by
    cases digested with | repeated | empty | withheld | accepted => exact h

/-- A property of the bus still holds when a cycle verifies a register. -/
lemma BusInvariant.prepared {B : σ → Prop} (kept : BusInvariant B) {d d₁ d₂ : Driver σ}
    {block : Vector UInt8 blockSize} (restored : Restoration d (.ok ()) d₁)
    (fetched : Fetching d₁.countedCycle (.ok block) d₂) (h : B d.bus) : B d₂.bus := by
  have before : B d₁.bus := kept.invariant.restoration restored h
  exact kept.invariant.fetching fetched before

lemma sound_invariant : Invariant (Sound (σ := σ)) where
  touch {d d'} touch h := by
    cases touch with
    | aside aside =>
      exact h.of_same aside.verifies (aside.watch_eq ▸ le_rfl) aside.values
    | read | refused | reset => exact h.of_same rfl le_rfl rfl
    | @written address value setting =>
      refine ⟨h.verifies, ?_, ?_⟩
      · rw [Integrity.Watch.record_eq]
        exact h.settling
      · have values := Integrity.Shadow.values_record address value d.watch.shadow 0
        change IsSetting Register.power ((d.watch.shadow.record address value).values.get 0)
        rw [values]
        split
        · next same => exact fun _ => setting same.symm
        · exact h.clock
  clear h := ⟨h.verifies, Nat.zero_le _, h.clock⟩
  restoration restored h := by
    cases restored with
    | notDue | failed | done => exact h.of_same rfl le_rfl rfl
  counting h := h.of_same rfl le_rfl rfl
  fetching fetched h := by
    cases fetched with
    | failed | fetched => exact h.of_same rfl le_rfl rfl
  verification verified h := by
    cases verified with
    | unread | right => exact h.of_same rfl le_rfl rfl
    | reset | repair => exact ⟨h.verifies, le_rfl, h.clock⟩
  digestion digested h := by
    cases digested with
    | repeated | empty | accepted => exact h.of_same rfl le_rfl rfl
    | withheld => exact h.of_same rfl (Nat.sub_le _ _) rfl

end

/-! ### States after bring-up -/

/-- The state with another bus. -/
def withBus {τ : Type} (bus : τ) (d : Driver σ) : Driver τ := { d with bus := bus }

/-- The states that can occur after a successful bring-up with registers verified. Up to then the
driver may have worked over any bus, and from then on it is on the bus of the state. -/
def Ready (d : Driver σ) : Prop :=
  ∃ (τ : Type) (_ : Transport τ) (bus : τ) (clock : Clock) (config : Configuration)
    (earlier later : List Operation),
    config.verifies = true ∧
      let start := (performAll earlier (.new bus clock config)).2
      (Driver.perform .initialise start).1.isOk = true ∧
        d = (performAll later (Driver.perform .initialise start).2).2.withBus d.bus

lemma Ready.sound {d : Driver σ} (h : Ready d) : Sound d := by
  obtain ⟨τ, _, bus, clock, config, earlier, later, verifies, _, same⟩ := h
  have start := sound_invariant.performAll earlier (sound_new bus clock verifies)
  have sound := sound_invariant.performAll later (sound_invariant.perform .initialise start)
  rw [same]
  exact ⟨sound.verifies, sound.settling, sound.clock⟩

end InertialSensor.Driver
