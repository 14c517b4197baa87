import InertialSensor.Binary32.Parts

/-!
# Output rate and on-chip filter

The chip divides a base rate of 1000 Hz by a whole number, and its own low-pass filter has seven
settings. Requests in hertz are mapped to the setting in force.
-/

namespace InertialSensor

/-- The rate that is divided, in hertz. -/
def baseRate : Nat := 1000

/-- The output rate as a divider of the base rate. -/
structure OutputRate where
  divider : Nat
deriving DecidableEq, Repr

namespace OutputRate

/-- The largest divider. -/
def maxDivider : Nat := 200

/-- The rate nearest to a request in hertz; a request for zero asks for the base rate. -/
def forHertz (hz : Nat) : OutputRate :=
  let hz := if hz = 0 then baseRate else hz
  let quotient := Binary32.ofNat baseRate / Binary32.ofNat hz
  ⟨max 1 (min (Binary32.toNearestNat quotient) maxDivider)⟩

/-- The rate in force, in whole hertz. -/
def hertz (r : OutputRate) : Nat := baseRate / r.divider

/-- The content of the divider register, which counts from zero. -/
def registerValue (r : OutputRate) : UInt8 := (r.divider - 1).toUInt8

end OutputRate

/-- The settings of the chip's own low-pass filter. -/
inductive OnChipFilter where
  | hz5
  | hz10
  | hz20
  | hz42
  | hz98
  | hz188
  /-- The filter is bypassed. -/
  | bypass
deriving DecidableEq, Repr

namespace OnChipFilter

/-- The lowest cutoff at or above a request in whole hertz. Zero, and requests beyond the highest
cutoff, bypass the filter. -/
def forCutoff (hz : Nat) : OnChipFilter :=
  if hz = 0 then bypass
  else if hz ≤ 5 then hz5
  else if hz ≤ 10 then hz10
  else if hz ≤ 20 then hz20
  else if hz ≤ 42 then hz42
  else if hz ≤ 98 then hz98
  else if hz ≤ 188 then hz188
  else bypass

def name : OnChipFilter → String
  | hz5 => "Hz5"
  | hz10 => "Hz10"
  | hz20 => "Hz20"
  | hz42 => "Hz42"
  | hz98 => "Hz98"
  | hz188 => "Hz188"
  | bypass => "WideOpen"

/-- The content of the filter register. -/
def registerValue : OnChipFilter → UInt8
  | hz5 => 6
  | hz10 => 5
  | hz20 => 4
  | hz42 => 3
  | hz98 => 2
  | hz188 => 1
  | bypass => 7

/-- The cutoff in hertz, unless the filter is bypassed. -/
def cutoff? : OnChipFilter → Option Nat
  | hz5 => some 5
  | hz10 => some 10
  | hz20 => some 20
  | hz42 => some 42
  | hz98 => some 98
  | hz188 => some 188
  | bypass => none

end OnChipFilter

/-- A cutoff in hertz as the chip's filter is asked for it: the fraction is dropped, and numbers
beyond sixteen bits stand for the largest of them. -/
def wholeHertz (cutoff : Float32) : Nat := cutoff.toUInt16.toNat

end InertialSensor
