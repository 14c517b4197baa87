import Mathlib
import InertialSensor.Signal.Stream

/-!
# Filters and windows as folds

A filter answers to a list of samples one by one, and so does a window of integrated change. Two
filters that differ at most in weights that are not in use answer alike (`Alike`); in particular a
filter that is designed anew answers like a fresh one of that design, whatever it was before.
-/

namespace InertialSensor

/-! ### Axes -/

/-- The axes of a frame. -/
inductive Axis where
  | x
  | y
  | z

namespace Axes

variable {α β γ : Type}

/-- The value on one axis. -/
def get (v : Axes α) : Axis → α
  | .x => v.x
  | .y => v.y
  | .z => v.z

@[simp] lemma get_replicate (a : α) (i : Axis) : (replicate a).get i = a := by cases i <;> rfl

@[simp] lemma get_map (f : α → β) (v : Axes α) (i : Axis) : (v.map f).get i = f (v.get i) := by
  cases i <;> rfl

@[simp] lemma get_zipWith (f : α → β → γ) (v : Axes α) (w : Axes β) (i : Axis) :
    (v.zipWith f w).get i = f (v.get i) (w.get i) := by
  cases i <;> rfl

lemma ext_get {v w : Axes α} (same : ∀ i, v.get i = w.get i) : v = w :=
  congr (congrArg₂ mk (same .x) (same .y)) (same .z)

end Axes

/-! ### Filters -/

namespace LowPass

variable {f g : LowPass}

@[simp] lemma run_nil (f : LowPass) : f.run [] = ([], f) := rfl

@[simp] lemma run_cons (f : LowPass) (x : Float32) (xs : List Float32) :
    f.run (x :: xs) = ((f.apply x).1 :: ((f.apply x).2.run xs).1, ((f.apply x).2.run xs).2) := rfl

/-- The answers of two filters cannot be told apart: they have the same cutoff and the same memory,
and the same weights if these are in use. -/
structure Alike (f g : LowPass) : Prop where
  cutoff : f.cutoff = g.cutoff
  enabled : f.enabled = g.enabled
  d1 : f.d1 = g.d1
  d2 : f.d2 = g.d2
  weights : f.enabled = true → f.weights = g.weights

lemma Alike.refl (f : LowPass) : Alike f f := ⟨rfl, rfl, rfl, rfl, fun _ => rfl⟩

/-- With the same design all filters are alike. -/
lemma redesign_alike (rate cutoff : Float32) (f g : LowPass) :
    Alike (f.redesign rate cutoff) (g.redesign rate cutoff) := by
  unfold redesign
  split
  · exact .refl _
  · exact ⟨rfl, rfl, rfl, rfl, nofun⟩

lemma redesign_alike_design (rate cutoff : Float32) (f : LowPass) :
    Alike (f.redesign rate cutoff) (design rate cutoff) := redesign_alike rate cutoff f _

/-- Filters that are alike give the same answer, and stay alike. -/
lemma Alike.apply (alike : Alike f g) (x : Float32) :
    (f.apply x).1 = (g.apply x).1 ∧ Alike (f.apply x).2 (g.apply x).2 := by
  unfold LowPass.apply
  rw [← alike.enabled]
  cases enabled : f.enabled with
  | false => exact ⟨rfl, alike⟩
  | true =>
    have weights := alike.weights enabled
    have inner : f.inner x = g.inner x := by
      simp only [LowPass.inner, alike.d1, alike.d2, weights]
    split
    · refine ⟨?_, alike.cutoff, rfl, inner, alike.d1, fun _ => weights⟩
      simp only [inner, alike.d1, alike.d2, weights]
    · exact ⟨rfl, alike⟩

/-! ### Designs -/

/-- A filter works on its memory only. -/
lemma apply_eq (f : LowPass) (x : Float32) :
    (f.apply x).2 = { f with d1 := (f.apply x).2.d1, d2 := (f.apply x).2.d2 } := by
  unfold LowPass.apply
  split
  · rfl
  · rfl

/-- The filters of a stream have this cutoff, and share their weights and whether they are in
use. -/
def OneDesign (cutoff : Float32) (filters : Axes LowPass) : Prop :=
  ∃ weights enabled, ∀ a, (filters.get a).cutoff = cutoff ∧ (filters.get a).weights = weights ∧
    (filters.get a).enabled = enabled

lemma oneDesign_replicate (f : LowPass) : OneDesign f.cutoff (.replicate f) :=
  ⟨f.weights, f.enabled, fun a => by simp⟩

/-- A fresh filter has the cutoff that it is designed for. -/
lemma cutoff_design (rate cutoff : Float32) : (design rate cutoff).cutoff = cutoff := by
  unfold design redesign
  split
  · rfl
  · rfl

lemma oneDesign_design (rate cutoff : Float32) :
    OneDesign cutoff (.replicate (design rate cutoff)) := by
  have h := oneDesign_replicate (design rate cutoff)
  rwa [cutoff_design] at h

/-- With a new design, filters share the new cutoff. -/
lemma OneDesign.redesign {cutoff : Float32} {filters : Axes LowPass} (h : OneDesign cutoff filters)
    (rate cutoff' : Float32) : OneDesign cutoff' (filters.map (.redesign rate cutoff')) := by
  obtain ⟨weights, enabled, same⟩ := h
  by_cases feasible : Feasible rate cutoff'
  · exact ⟨.butterworth rate cutoff', true, fun a => by simp [LowPass.redesign, feasible]⟩
  · refine ⟨weights, false, fun a => ?_⟩
    simp [LowPass.redesign, feasible, (same a).2.1]

/-- Filters keep their design while they work. -/
lemma OneDesign.apply {cutoff : Float32} {filters : Axes LowPass} (h : OneDesign cutoff filters)
    (v : Axes Float32) : OneDesign cutoff (filters.zipWith (fun f x => (f.apply x).2) v) := by
  obtain ⟨weights, enabled, same⟩ := h
  refine ⟨weights, enabled, fun a => ?_⟩
  rw [Axes.get_zipWith, apply_eq]
  exact same a

end LowPass

/-! ### Windows -/

namespace DeltaWindow

/-- What becomes of a list of timed samples: for each of them the change over the window that it
closed, if it closed one, and the window afterwards. -/
def run (w : DeltaWindow) : List (UInt64 × Axes Float32) → List (Option Delta) × DeltaWindow
  | [] => ([], w)
  | (time, value) :: samples =>
    let (delta?, w) := w.put time value
    let (deltas, w) := w.run samples
    (delta? :: deltas, w)

@[simp] lemma run_nil (w : DeltaWindow) : w.run [] = ([], w) := rfl

@[simp] lemma run_cons (w : DeltaWindow) (time : UInt64) (value : Axes Float32)
    (samples : List (UInt64 × Axes Float32)) :
    w.run ((time, value) :: samples) =
      ((w.put time value).1 :: ((w.put time value).2.run samples).1,
        ((w.put time value).2.run samples).2) := rfl

/-- Integrating a sample adds one step to the sum; besides the times and values, it concerns the
correction for coning only. -/
lemma extend_eq (w : DeltaWindow) (time : UInt64) (value : Axes Float32) :
    w.extend time value =
      { w with
        lastTime := time
        lastValue := value
        sum := w.sum.zipWith (· + ·) (w.step time value)
        correction := (w.extend time value).correction
        lastSum := (w.extend time value).lastSum
        lastStep := (w.extend time value).lastStep } := by
  simp only [extend]
  split
  · rfl
  · rfl

end DeltaWindow

/-- The change that a report carries, and the length of its window: zero if no window closed. -/
def reported : Option Delta → Axes Float32 × UInt64
  | some delta => (delta.change, delta.duration)
  | none => (.replicate 0, 0)

end InertialSensor
