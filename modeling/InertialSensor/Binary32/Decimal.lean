import InertialSensor.Binary32.Parts

/-!
# Decimal text of binary32 numbers

Three ways to write a number:

* `text`: the fewest digits that read back as the same number, never with an exponent;
* `exactText`: the same digits, but a whole number keeps a point and a zero, and very large and
  very small numbers carry an exponent;
* `fixedText`: a fixed number of places after the point, rounded from the exact value.

A set sign bit is written also for zero. NaN carries no sign.
-/

namespace InertialSensor.Binary32

/-- The number `digits · 10^exponent`. -/
structure Decimal where
  digits : Nat
  exponent : Int

/-! ### The fewest digits -/

/-- A power of ten. -/
def powerOfTen (k : Nat) : Nat := Nat.pow 10 k

/-- The least mantissa of a number that is not subnormal. -/
def leastNormal : Nat := 0x800000

/-- The two decimals next to the exact value `num / den` on the grid of multiples of `10^k`,
below and above, as multiples of `10^k`; and the scaled quotient itself. -/
def gridNeighbours (num den : Nat) (k : Int) : Nat × Nat × Nat × Nat :=
  let (n, d) :=
    if 0 ≤ k then (num, den * powerOfTen k.toNat) else (num * powerOfTen (-k).toNat, den)
  (n / d, (n + d - 1) / d, n, d)

/-- The decimal on the grid of multiples of `10^k` that reads back as the number with mantissa `m`
and exponent `e`, the nearer of two, the upper of two equally near. Reading back means lying
between the midpoints to the neighbouring numbers, and on a midpoint only for an even mantissa. -/
def onGrid (m : Nat) (e k : Int) : Option Nat :=
  let (num, den) := scaleDown (4 * m) 1 (2 - e)
  let (below, above, n, d) := gridNeighbours num den k
  let unit := n / (4 * m)
  let gapBelow := if m = leastNormal then unit else 2 * unit
  let gapAbove := 2 * unit
  let inside (distance gap : Nat) : Bool :=
    distance < gap || (distance == gap && m % 2 == 0)
  let distanceBelow := n - below * d
  let distanceAbove := above * d - n
  match inside distanceBelow gapBelow, inside distanceAbove gapAbove with
  | true, true => some (if distanceAbove ≤ distanceBelow then above else below)
  | true, false => some below
  | false, true => some above
  | false, false => none

/-- The coarsest of the grids `10^k`, `10^(k-1)`, … with a decimal that reads back. -/
def coarsest (m : Nat) (e : Int) : (fuel : Nat) → (k : Int) → Decimal
  | 0, k => ⟨(onGrid m e k).getD 0, k⟩
  | fuel + 1, k =>
    match onGrid m e k with
    | some digits => ⟨digits, k⟩
    | none => coarsest m e fuel (k - 1)

/-- The largest `k` for which `10^k` is at most the number `m · 2^e`, found downward from `k`. -/
def magnitude (m : Nat) (e : Int) : (fuel : Nat) → (k : Int) → Int
  | 0, k => k
  | fuel + 1, k =>
    let (n, d) := scaleDown m 1 (-e)
    let (below, _) := gridNeighbours n d k
    if below = 0 then magnitude m e fuel (k - 1) else k

/-- The shortest decimal that reads back as the number with mantissa `m > 0` and exponent `e`. -/
def shortest (m : Nat) (e : Int) : Decimal :=
  coarsest m e 20 (magnitude m e 90 39)

/-- A decimal without trailing zeros in its digits. -/
def Decimal.strip : (fuel : Nat) → Decimal → Decimal
  | 0, x => x
  | fuel + 1, x =>
    if x.digits ≠ 0 ∧ x.digits % 10 = 0 then
      Decimal.strip fuel ⟨x.digits / 10, x.exponent + 1⟩
    else x

/-! ### Writing -/

/-- The digits of a natural number in base ten. -/
def natDigits (n : Nat) : List Char := Nat.toDigits 10 n

/-- Digits with a point before the last `places` of them, padded with zeros on the left. -/
def withPoint (digits : List Char) (places : Nat) : String :=
  let padded := List.replicate (places + 1 - digits.length) '0' ++ digits
  let whole := padded.take (padded.length - places)
  let fraction := padded.drop (padded.length - places)
  if places = 0 then String.ofList whole else String.ofList (whole ++ '.' :: fraction)

/-- A decimal in positional notation. -/
def Decimal.positional (x : Decimal) : String :=
  if 0 ≤ x.exponent then
    String.ofList (natDigits x.digits ++ List.replicate x.exponent.toNat '0')
  else
    withPoint (natDigits x.digits) (-x.exponent).toNat

/-- A decimal with one digit before the point and an exponent. -/
def Decimal.scientific (x : Decimal) : String :=
  let digits := natDigits x.digits
  withPoint digits (digits.length - 1) ++ "e" ++ toString (x.exponent + (digits.length - 1 : Nat))

/-- The sign of a number, then the text of its magnitude; infinity and NaN have texts of their
own. -/
def signed (x : Float32) (magnitude : Parts → String) : String :=
  if x.isNaN then "NaN"
  else
    let p := parts x
    (if p.negative then "-" else "") ++ (if x.isFinite then magnitude p else "inf")

/-- The fewest digits that read back, in positional notation; a whole number has no point. -/
def text (x : Float32) : String :=
  signed x fun p =>
    if p.mantissa = 0 then "0" else ((shortest p.mantissa p.exponent).strip 40).positional

/-- The fewest digits that read back, with a point in every positional number; an exponent is
written below `10^-4` and from `10^16` on. -/
def exactText (x : Float32) : String :=
  signed x fun p =>
    if p.mantissa = 0 then "0.0"
    else
      let d := (shortest p.mantissa p.exponent).strip 40
      let size := x.abs
      if size < 1e-4 ∨ 1e16 ≤ size then d.scientific
      else if 0 ≤ d.exponent then d.positional ++ ".0" else d.positional

/-- Exactly `places` digits after the point, rounded from the exact value, an exact half going to
the even neighbour. -/
def fixedText (places : Nat) (x : Float32) : String :=
  signed x fun p =>
    let (n, d) := scaleDown (p.mantissa * powerOfTen places) 1 (-p.exponent)
    withPoint (natDigits (roundHalfEven n d)) places

/-- Text moved to the right end of a field of the given width. -/
def padLeft (width : Nat) (s : String) : String :=
  String.ofList (List.replicate (width - s.length) ' ') ++ s

end InertialSensor.Binary32
