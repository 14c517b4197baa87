import InertialSensor.Axes

/-!
# Calibration

An offset and a scale for each axis. The calibrated value of a raw vector in counts is
`(raw · range scale - offset) · scale`.
-/

namespace InertialSensor

/-- Offset and scale for each axis. -/
structure Calibration where
  offset : Axes Float32
  scale : Axes Float32

namespace Calibration

/-- No offset, unit scale. -/
def identity : Calibration := ⟨.replicate 0, .replicate 1⟩

/-- The calibrated value of a vector in counts. -/
def apply (c : Calibration) (rangeScale : Float32) (v : Axes Float32) : Axes Float32 :=
  let shifted := v.zipWith (fun raw offset => raw * rangeScale - offset) c.offset
  shifted.zipWith (· * ·) c.scale

/-- The sum of the three scales. -/
def scaleSum (c : Calibration) : Float32 := c.scale.x + c.scale.y + c.scale.z

/-- An accelerometer calibration is plausible if its scales sum to more than two and less than
four. -/
def Plausible (c : Calibration) : Prop := 2 < c.scaleSum ∧ c.scaleSum < 4

instance (c : Calibration) : Decidable c.Plausible := inferInstanceAs (Decidable (_ ∧ _))

/-- How far a scale is from one. -/
def deviation (scale : Float32) : Float32 := (scale - 1).abs

/-- The accelerometer's self test: every axis was calibrated, none by too much. An offset of zero
or a scale of one means that the axis never was. -/
def accelPasses (c : Calibration) : Bool :=
  c.offset.all (fun o => decide (1e-6 ≤ o.abs)) &&
    c.scale.all fun s => decide (deviation s ≤ 0.4) && decide (1e-6 ≤ deviation s)

/-- The gyro's self test: some axis has an offset, and none is off by too much. -/
def gyroPasses (c : Calibration) : Bool :=
  c.offset.all (fun o => decide (o.abs ≤ 0.34)) &&
    c.scale.all (fun s => decide (deviation s ≤ 0.3)) &&
    !c.offset.all fun o => decide (o.abs < 1e-6)

end Calibration

end InertialSensor
