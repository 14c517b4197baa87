import Mathlib
import InertialSensor.Driver.Operation
import InertialSensor.Proofs.Integrity.Checked

/-!
# What requests without a cycle do to the state

Whatever is asked of a driver short of a measurement cycle works on its state through a few kinds
of single changes, the constructors of `Touch`: something aside from the bus and the shadow, a read,
a write that is refused, a write whose value is kept in the shadow, and a command to reset the chip.
`Quiet` is a succession of them, and `x.Quietly` says that the routine `x` does nothing else,
whether it succeeds or fails.

What every touch keeps is thereby kept by every such request (`Quiet.keeps`), and what no touch
concerns itself with is left alone (`Quiet.idle`).
-/

namespace InertialSensor

namespace Driver

variable {σ : Type}

/-- Besides the bus and the values of the shadow, nothing changed that a cycle works on: no progress
was made in a recovery, nothing counted that cycles count, nothing published, and no report added to
a backlog. What else is counted did not go down. -/
structure Idle (d d' : Driver σ) : Prop where
  watch : d'.watch = { d.watch with shadow.values := d'.watch.shadow.values }
  stats : d'.stats =
    { d.stats with reads := d'.stats.reads, resetRetries := d'.stats.resetRetries }
  reads : ∀ c, d.stats.reads.get c ≤ d'.stats.reads.get c
  retries : d.stats.resetRetries ≤ d'.stats.resetRetries
  verifies : d'.config.verifies = d.config.verifies
  published : d'.published = d.published
  backlog : ∀ c, (d'.streams.get c).backlog.items <:+ (d.streams.get c).backlog.items

lemma Idle.refl (d : Driver σ) : Idle d d :=
  ⟨rfl, rfl, fun _ => le_rfl, le_rfl, rfl, rfl, fun _ => List.suffix_rfl⟩

lemma Idle.trans {d d' d'' : Driver σ} (h : Idle d d') (h' : Idle d' d'') : Idle d d'' where
  watch := by rw [h'.watch, h.watch]
  stats := by rw [h'.stats, h.stats]
  reads c := (h.reads c).trans (h'.reads c)
  retries := h.retries.trans h'.retries
  verifies := h'.verifies.trans h.verifies
  published := h'.published.trans h.published
  backlog c := (h'.backlog c).trans (h.backlog c)

/-- A change aside from the bus and the shadow. -/
structure Aside (d d' : Driver σ) : Prop extends Idle d d' where
  bus : d'.bus = d.bus
  values : d'.watch.shadow.values = d.watch.shadow.values

lemma Aside.watch_eq {d d' : Driver σ} (h : Aside d d') : d'.watch = d.watch := by
  rw [h.watch, h.values]

/-- What a change aside from the bus and the shadow leaves as it is, if it counts nothing; the
backlogs apart. -/
def work (d : Driver σ) := (d.bus, d.watch, d.stats, d.config.verifies, d.published)

lemma aside_of_work {d d' : Driver σ} (same : d'.work = d.work)
    (backlog : ∀ c, (d'.streams.get c).backlog.items <:+ (d.streams.get c).backlog.items) :
    Aside d d' := by
  simp only [work, Prod.mk.injEq] at same
  obtain ⟨bus, watch, stats, verifies, published⟩ := same
  refine ⟨⟨?_, ?_, fun _ => stats ▸ le_rfl, stats ▸ le_rfl, verifies, published, backlog⟩, bus, ?_⟩
  · rw [watch]
  · rw [stats]
  · rw [watch]

/-- A change that leaves the streams alone too. -/
lemma aside_of_streams {d d' : Driver σ} (same : d'.work = d.work)
    (streams : d'.streams = d.streams) : Aside d d' :=
  aside_of_work same fun _ => streams ▸ List.suffix_rfl

/-- A change of one stream that adds no report to its backlog. -/
lemma aside_modify {f : Stream → Stream} {c : Channel} {d : Driver σ}
    (h : (f (d.streams.get c)).backlog.items <:+ (d.streams.get c).backlog.items) :
    Aside d { d with streams := d.streams.modify c f } := by
  refine aside_of_work rfl fun other => ?_
  by_cases same : other = c
  · subst same
    rw [PerChannel.get_modify_same]
    exact h
  · rw [PerChannel.get_modify_of_ne _ f same]

lemma aside_countRead (c : Channel) (d : Driver σ) :
    Aside d { d with stats.reads := d.stats.reads.modify c (· + 1) } := by
  refine ⟨⟨rfl, rfl, fun other => ?_, le_rfl, rfl, rfl, fun _ => List.suffix_rfl⟩, rfl, rfl⟩
  by_cases same : other = c
  · subst same
    rw [PerChannel.get_modify_same]
    exact Nat.le_succ _
  · rw [PerChannel.get_modify_of_ne _ _ same]

lemma aside_countRetry (d : Driver σ) :
    Aside d { d with stats.resetRetries := d.stats.resetRetries + 1 } :=
  ⟨⟨rfl, rfl, fun _ => le_rfl, Nat.le_succ _, rfl, rfl, fun _ => List.suffix_rfl⟩, rfl, rfl⟩

lemma aside_flush (c : Channel) (d : Driver σ) :
    Aside d { d with streams := d.streams.modify c (·.flush) } :=
  aside_modify List.nil_suffix

/-- A write that does not reset the chip. -/
def IsSetting (address value : UInt8) : Prop :=
  address = Register.power → value &&& Register.resetBit = 0

variable [Transport σ]

/-- The single changes of which a request without a cycle is made up. Commands to reset the chip are
among them only if `resetting`. -/
inductive Touch (resetting : Prop) (d : Driver σ) : Driver σ → Prop where
  | aside {d' : Driver σ} (h : Aside d d') : Touch resetting d d'
  | read {n : Nat} (address : UInt8) (speed : Speed) (buffer : Vector UInt8 n) :
      Touch resetting d { d with bus := (Transport.read address speed buffer d.bus).2 }
  | refused {address value : UInt8} {text : String}
      (h : (Transport.write address value d.bus).1 = .error text) :
      Touch resetting d { d with bus := (Transport.write address value d.bus).2 }
  | written {address value : UInt8} (setting : IsSetting address value)
      (h : (Transport.write address value d.bus).1 = .ok ()) :
      Touch resetting d
        { d with
          bus := (Transport.write address value d.bus).2
          watch := d.watch.record address value }
  | reset (h : resetting) :
      Touch resetting d
        { d with bus := (Transport.write Register.power Register.resetBit d.bus).2 }

/-- A succession of touches. -/
def Quiet (resetting : Prop) : Driver σ → Driver σ → Prop :=
  Relation.ReflTransGen (Touch resetting)

namespace Quiet

variable {resetting : Prop} {d d' d'' : Driver σ}

lemma refl (d : Driver σ) : Quiet resetting d d := Relation.ReflTransGen.refl

lemma single (h : Touch resetting d d') : Quiet resetting d d' := Relation.ReflTransGen.single h

lemma trans (h : Quiet resetting d d') (h' : Quiet resetting d' d'') : Quiet resetting d d'' :=
  Relation.ReflTransGen.trans h h'

/-- What every touch keeps, a succession of touches keeps. -/
lemma keeps {I : Driver σ → Prop} (quiet : Quiet resetting d d')
    (touch : ∀ {d d'}, Touch resetting d d' → I d → I d') (h : I d) : I d' := by
  induction quiet with
  | refl => exact h
  | tail _ last ih => exact touch last ih

lemma mono {may : Prop} (h : resetting → may) (quiet : Quiet resetting d d') : Quiet may d d' := by
  refine quiet.keeps (I := Quiet may d) ?_ (.refl d)
  intro d₁ d₂ touch before
  refine before.trans (.single ?_)
  cases touch with
  | aside h => exact .aside h
  | read address speed buffer => exact .read address speed buffer
  | refused h => exact .refused h
  | written setting h => exact .written setting h
  | reset h' => exact .reset (h h')

lemma idle (quiet : Quiet resetting d d') : Idle d d' := by
  refine quiet.keeps (I := Idle d) ?_ (.refl d)
  intro d₁ d₂ touch before
  refine before.trans ?_
  cases touch with
  | aside h => exact h.toIdle
  | read | refused | reset =>
    exact ⟨rfl, rfl, fun _ => le_rfl, le_rfl, rfl, rfl, fun _ => List.suffix_rfl⟩
  | written =>
    exact ⟨Integrity.Watch.record_eq .., rfl, fun _ => le_rfl, le_rfl, rfl, rfl,
      fun _ => List.suffix_rfl⟩

end Quiet

end Driver

/-! ### Routines -/

namespace Routine

open Driver

variable {σ α β : Type} [Transport σ] {resetting : Prop}

/-- A routine works through touches only, whether it succeeds or fails. -/
def Quietly (resetting : Prop) (x : Routine σ α) : Prop := ∀ d, Quiet resetting d (x d).2

namespace Quietly

lemma pure (a : α) : Quietly resetting (pure a : Routine σ α) := fun d => .refl d

lemma look : Quietly resetting (look : Routine σ (Driver σ)) := fun d => .refl d

lemma fail (e : Failure) : Quietly resetting (fail e : Routine σ α) := fun d => .refl d

lemma bind {x : Routine σ α} {f : α → Routine σ β} (hx : Quietly resetting x)
    (hf : ∀ a, Quietly resetting (f a)) : Quietly resetting (x >>= f) := by
  intro d
  have first := hx d
  rw [bind_apply]
  generalize x d = r at first ⊢
  obtain ⟨_ | a, between⟩ := r
  · exact first
  · exact first.trans (hf a between)

/-- What follows a routine quietly starts where the routine left off. -/
lemma after {f : α → Routine σ β} (hf : ∀ a, Quietly resetting (f a)) (x : Routine σ α)
    (d : Driver σ) : Quiet resetting (x d).2 ((x >>= f) d).2 := by
  rw [bind_apply]
  generalize x d = r
  obtain ⟨_ | a, between⟩ := r
  · exact .refl between
  · exact hf a between

lemma attempt {x : Routine σ α} (hx : Quietly resetting x) : Quietly resetting (attempt x) := hx

lemma update {f : Driver σ → Driver σ} (h : ∀ d, Aside d (f d)) : Quietly resetting (update f) :=
  fun d => .single (.aside (h d))

lemma note (e : Event) : Quietly resetting (note e : Routine σ Unit) :=
  .update fun _ => aside_of_streams rfl rfl

lemma delay (us : UInt64) : Quietly resetting (delay us : Routine σ Unit) :=
  .update fun _ => aside_of_streams rfl rfl

end Quietly

end Routine

end InertialSensor
