import InertialSensor.Binary32.Parts

/-!
# Sine, cosine and tangent

The three functions of an angle in radians, rounded once to binary32. Cosine and sine are summed
from their power series in fixed point with 256 binary places, so that for angles of magnitude up
to eight the error left before the final rounding is far below a binary32 digit.
-/

namespace InertialSensor.Binary32

/-- The ratio of a circle's circumference to its diameter, rounded to binary32. -/
def pi : Float32 := Float32.ofBits 0x40490fdb

/-- One over the square root of two, rounded to binary32. -/
def halfSqrt : Float32 := Float32.ofBits 0x3f3504f3

/-- Degrees to radians; the quotient of `π` and 180 is rounded first. -/
def toRadians (degrees : Float32) : Float32 := degrees * (pi / 180.0)

/-! ### Power series in fixed point -/

/-- The binary places of the fixed point. -/
def places : Nat := 256

/-- One in fixed point. -/
def one : Nat := 1 <<< places

/-- The number of terms summed; the next term is below `2^-256` for arguments up to eight. -/
def termCount : Nat := 120

/-- From `term = x^k / k!` on, the two alternating sums `term_k - term_(k+2) + …` and
`term_(k+1) - term_(k+3) + …`. -/
def alternatingSums (x : Nat) : (count k term : Nat) → Int × Int
  | 0, _, _ => (0, 0)
  | count + 1, k, term =>
    let (next, afterNext) := alternatingSums x count (k + 1) (term * x / ((k + 1) * one))
    ((term : Int) - afterNext, next)

/-- Cosine and sine of the magnitude of a finite number, in fixed point. -/
def cosSin (p : Parts) : Int × Int :=
  let (n, d) := scaleDown p.mantissa 1 (-p.exponent - places)
  alternatingSums (n / d) termCount 0 one

/-- The sine of an angle in radians. -/
def sine (x : Float32) : Float32 :=
  let p := parts x
  let (_, s) := cosSin p
  nearest (p.negative ^^ decide (s < 0)) s.natAbs one

/-- The cosine of an angle in radians. -/
def cosine (x : Float32) : Float32 :=
  let (c, _) := cosSin (parts x)
  nearest (decide (c < 0)) c.natAbs one

/-- The tangent of an angle in radians. -/
def tangent (x : Float32) : Float32 :=
  let p := parts x
  let (c, s) := cosSin p
  nearest (p.negative ^^ decide (s < 0) ^^ decide (c < 0)) s.natAbs c.natAbs

end InertialSensor.Binary32
