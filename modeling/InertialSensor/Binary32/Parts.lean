/-!
# The parts of a binary32 number

Every finite binary32 number is `± m · 2^e` with a natural mantissa. This file takes a number
apart, and goes the other way for whole numbers and for quotients: `ofNat` and `nearest` give the
binary32 number closest to an exact value, an exact half going to the even neighbour. All of it
rests on the unpacked form of floating-point numbers, in which their arithmetic is defined too.
-/

namespace InertialSensor.Binary32

open Float.Model (UnpackedFloat)
open Float.Model.UnpackedFloat (Sign)

/-- The finite number `(-1)^negative · mantissa · 2^exponent`. -/
structure Parts where
  negative : Bool
  mantissa : Nat
  exponent : Int
deriving DecidableEq

/-- A sign as a truth value. -/
def isNegative : Sign → Bool
  | .positive => false
  | .negative => true

/-- The parts of a number. Infinity and NaN have none, and are given those of a zero; callers ask
`isFinite` first. -/
def parts (x : Float32) : Parts :=
  match x.toModel.unpack with
  | .finite sign mantissa exponent _ => ⟨isNegative sign, mantissa, exponent⟩
  | .zero sign | .infinity sign => ⟨isNegative sign, 0, 0⟩
  | .notANumber => ⟨false, 0, 0⟩

/-! ### Rounding of quotients -/

/-- The whole number nearest to `num / den`, an exact half going to the even neighbour. -/
def roundHalfEven (num den : Nat) : Nat :=
  let quotient := num / den
  let rest := num % den
  if 2 * rest < den ∨ (2 * rest = den ∧ quotient % 2 = 0) then quotient else quotient + 1

/-- The whole number nearest to `num / den`, an exact half going up. -/
def roundHalfUp (num den : Nat) : Nat := (2 * num + den) / (2 * den)

/-- Numerator and denominator of `num / den / 2^e`. -/
def scaleDown (num den : Nat) (e : Int) : Nat × Nat :=
  if 0 ≤ e then (num, den <<< e.toNat) else (num <<< (-e).toNat, den)

/-- A natural number as an exact unpacked number. -/
def unpacked (sign : Sign) (n : Nat) : UnpackedFloat :=
  if h : 0 < n then .finite sign n 0 h else .zero sign

/-- The binary32 number nearest to `± num / den`; infinity where that is too large. -/
def nearest (negative : Bool) (num den : Nat) : Float32 :=
  let sign : Sign := if negative then .negative else .positive
  .ofModel (.pack (.div .binary32 (unpacked sign num) (unpacked .positive den)))

/-! ### Whole numbers -/

/-- The binary32 number nearest to a natural number. -/
def ofNat (n : Nat) : Float32 := .ofModel (.ofNat n)

/-- A sixteen-bit word as a number; every such word is a binary32 number. -/
def ofInt16 (n : Int16) : Float32 := .ofModel (.ofInt16 n)

/-- The whole number nearest to a finite number, an exact half going away from zero; negative
numbers give zero. -/
def toNearestNat (x : Float32) : Nat :=
  let p := parts x
  let (n, d) := scaleDown p.mantissa 1 (-p.exponent)
  if p.negative then 0 else roundHalfUp n d

end InertialSensor.Binary32
