import InertialSensor.Binary32.Angle

/-!
# Low-pass filter

A second-order Butterworth low-pass filter for one axis. A cutoff that is not positive, or not
below half the sample rate, switches the filter off, and samples then pass unchanged. So do
numbers that are not finite, which leave the filter's memory alone.
-/

namespace InertialSensor

/-- The weights of the recursion: `b` for the outputs, `a` for the feedback. -/
structure Weights where
  b0 : Float32
  b1 : Float32
  b2 : Float32
  a1 : Float32
  a2 : Float32

namespace Weights

/-- The weights that copy the input. -/
def copy : Weights := ⟨1, 0, 0, 0, 0⟩

/-- The Butterworth weights for a cutoff below half the sample rate. -/
def butterworth (rate cutoff : Float32) : Weights :=
  let ratio := rate / cutoff
  let w := Binary32.tangent (Binary32.pi / ratio)
  let c := 1.0 + 2.0 * Binary32.halfSqrt * w + w * w
  let b0 := w * w / c
  { b0 := b0
    b1 := 2.0 * b0
    b2 := b0
    a1 := 2.0 * (w * w - 1.0) / c
    a2 := (1.0 - 2.0 * Binary32.halfSqrt * w + w * w) / c }

end Weights

/-- A filter: its cutoff, its weights, whether they are in use, and the two numbers remembered. -/
structure LowPass where
  cutoff : Float32
  weights : Weights
  enabled : Bool
  d1 : Float32
  d2 : Float32

namespace LowPass

/-- A cutoff that a filter at this sample rate can have. NaN is none. -/
def Feasible (rate cutoff : Float32) : Prop :=
  0 < cutoff ∧ 0 < rate ∧ ¬ rate / 2 ≤ cutoff

instance (rate cutoff : Float32) : Decidable (Feasible rate cutoff) :=
  inferInstanceAs (Decidable (_ ∧ _))

/-- A new design for a filter; its memory is cleared. A filter that is switched off keeps the
weights it had. -/
def redesign (rate cutoff : Float32) (f : LowPass) : LowPass :=
  if Feasible rate cutoff then
    ⟨cutoff, .butterworth rate cutoff, true, 0, 0⟩
  else
    ⟨cutoff, f.weights, false, 0, 0⟩

theorem cutoff_redesign (rate cutoff : Float32) (f : LowPass) :
    (f.redesign rate cutoff).cutoff = cutoff := by
  unfold redesign
  split <;> rfl

/-- A fresh filter. -/
def design (rate cutoff : Float32) : LowPass :=
  redesign rate cutoff ⟨cutoff, .copy, false, 0, 0⟩

/-- The recursion's inner number for a sample; a sum that overflows is replaced by the sample. -/
def inner (f : LowPass) (x : Float32) : Float32 :=
  let d0 := x - f.d1 * f.weights.a1 - f.d2 * f.weights.a2
  if d0.isFinite then d0 else x

/-- The filter's answer to one sample, and the filter afterwards. -/
def apply (f : LowPass) (x : Float32) : Float32 × LowPass :=
  if f.enabled && x.isFinite then
    let d0 := f.inner x
    (d0 * f.weights.b0 + f.d1 * f.weights.b1 + f.d2 * f.weights.b2, { f with d1 := d0, d2 := f.d1 })
  else (x, f)

/-- The answers to a list of samples, and the filter afterwards. -/
def run (f : LowPass) : List Float32 → List Float32 × LowPass
  | [] => ([], f)
  | x :: xs =>
    let (y, f) := f.apply x
    let (ys, f) := f.run xs
    (y :: ys, f)

end LowPass

end InertialSensor
