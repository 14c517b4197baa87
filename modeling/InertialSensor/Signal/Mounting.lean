import InertialSensor.Axes
import InertialSensor.Binary32.Angle

/-!
# Mounting orientations

The sensor may be mounted in one of 26 orientations, each given by a roll, a pitch and a yaw in
degrees. A vector is turned into the body's frame by `Rz(yaw) · Ry(pitch) · Rx(roll)`. Quarter
turns have exact sines and cosines, so that a mounting made of quarter turns only swaps and
negates axes.
-/

namespace InertialSensor

/-- The mounting orientations, in the order of their index. -/
inductive Mounting where
  | none
  | yaw45
  | yaw90
  | yaw135
  | yaw180
  | yaw225
  | yaw270
  | yaw315
  | roll180
  | roll180Yaw45
  | roll180Yaw90
  | roll180Yaw135
  | pitch180
  | roll180Yaw225
  | roll180Yaw270
  | roll180Yaw315
  | roll90
  | roll90Yaw45
  | roll90Yaw90
  | roll90Yaw135
  | roll270
  | roll270Yaw45
  | roll270Yaw90
  | roll270Yaw135
  | pitch90
  | pitch270
deriving DecidableEq, Repr

/-- Roll, pitch and yaw in whole degrees. -/
structure Attitude where
  roll : Nat
  pitch : Nat
  yaw : Nat
deriving DecidableEq

namespace Mounting

/-- All orientations in the order of their index. -/
def all : List Mounting :=
  [none, yaw45, yaw90, yaw135, yaw180, yaw225, yaw270, yaw315, roll180, roll180Yaw45,
    roll180Yaw90, roll180Yaw135, pitch180, roll180Yaw225, roll180Yaw270, roll180Yaw315, roll90,
    roll90Yaw45, roll90Yaw90, roll90Yaw135, roll270, roll270Yaw45, roll270Yaw90, roll270Yaw135,
    pitch90, pitch270]

/-- The orientation with an index, if there is one. -/
def ofIndex? (i : Nat) : Option Mounting := all[i]?

def name : Mounting → String
  | none => "None"
  | yaw45 => "Yaw45"
  | yaw90 => "Yaw90"
  | yaw135 => "Yaw135"
  | yaw180 => "Yaw180"
  | yaw225 => "Yaw225"
  | yaw270 => "Yaw270"
  | yaw315 => "Yaw315"
  | roll180 => "Roll180"
  | roll180Yaw45 => "Roll180Yaw45"
  | roll180Yaw90 => "Roll180Yaw90"
  | roll180Yaw135 => "Roll180Yaw135"
  | pitch180 => "Pitch180"
  | roll180Yaw225 => "Roll180Yaw225"
  | roll180Yaw270 => "Roll180Yaw270"
  | roll180Yaw315 => "Roll180Yaw315"
  | roll90 => "Roll90"
  | roll90Yaw45 => "Roll90Yaw45"
  | roll90Yaw90 => "Roll90Yaw90"
  | roll90Yaw135 => "Roll90Yaw135"
  | roll270 => "Roll270"
  | roll270Yaw45 => "Roll270Yaw45"
  | roll270Yaw90 => "Roll270Yaw90"
  | roll270Yaw135 => "Roll270Yaw135"
  | pitch90 => "Pitch90"
  | pitch270 => "Pitch270"

/-- Roll, pitch and yaw of an orientation. -/
def attitude : Mounting → Attitude
  | none => ⟨0, 0, 0⟩
  | yaw45 => ⟨0, 0, 45⟩
  | yaw90 => ⟨0, 0, 90⟩
  | yaw135 => ⟨0, 0, 135⟩
  | yaw180 => ⟨0, 0, 180⟩
  | yaw225 => ⟨0, 0, 225⟩
  | yaw270 => ⟨0, 0, 270⟩
  | yaw315 => ⟨0, 0, 315⟩
  | roll180 => ⟨180, 0, 0⟩
  | roll180Yaw45 => ⟨180, 0, 45⟩
  | roll180Yaw90 => ⟨180, 0, 90⟩
  | roll180Yaw135 => ⟨180, 0, 135⟩
  | pitch180 => ⟨0, 180, 0⟩
  | roll180Yaw225 => ⟨180, 0, 225⟩
  | roll180Yaw270 => ⟨180, 0, 270⟩
  | roll180Yaw315 => ⟨180, 0, 315⟩
  | roll90 => ⟨90, 0, 0⟩
  | roll90Yaw45 => ⟨90, 0, 45⟩
  | roll90Yaw90 => ⟨90, 0, 90⟩
  | roll90Yaw135 => ⟨90, 0, 135⟩
  | roll270 => ⟨270, 0, 0⟩
  | roll270Yaw45 => ⟨270, 0, 45⟩
  | roll270Yaw90 => ⟨270, 0, 90⟩
  | roll270Yaw135 => ⟨270, 0, 135⟩
  | pitch90 => ⟨0, 90, 0⟩
  | pitch270 => ⟨0, 270, 0⟩

end Mounting

/-! ### Turning vectors -/

/-- The sine and cosine of a turn. -/
structure Turn where
  sin : Float32
  cos : Float32

/-- The turn by a number of degrees, exact for quarter turns. -/
def Turn.ofDegrees (degrees : Nat) : Turn :=
  if degrees = 0 then ⟨0, 1⟩
  else if degrees = 90 then ⟨1, 0⟩
  else if degrees = 180 then ⟨0, -1⟩
  else if degrees = 270 then ⟨-1, 0⟩
  else
    let angle := Binary32.toRadians (Binary32.ofNat degrees)
    ⟨Binary32.sine angle, Binary32.cosine angle⟩

/-- Turns a vector by a roll, then a pitch, then a yaw. -/
def Attitude.turn (a : Attitude) (v : Axes Float32) : Axes Float32 :=
  let r := Turn.ofDegrees a.roll
  let p := Turn.ofDegrees a.pitch
  let w := Turn.ofDegrees a.yaw
  { x := w.cos * p.cos * v.x + (w.cos * p.sin * r.sin - w.sin * r.cos) * v.y +
      (w.cos * p.sin * r.cos + w.sin * r.sin) * v.z
    y := w.sin * p.cos * v.x + (w.sin * p.sin * r.sin + w.cos * r.cos) * v.y +
      (w.sin * p.sin * r.cos - w.cos * r.sin) * v.z
    z := (-p.sin) * v.x + p.cos * r.sin * v.y + p.cos * r.cos * v.z }

/-- Turns a vector from the board's frame into the body's. -/
def Mounting.apply (m : Mounting) (v : Axes Float32) : Axes Float32 :=
  match m with
  | .none => v
  | m => m.attitude.turn v

end InertialSensor
