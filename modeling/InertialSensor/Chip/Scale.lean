import InertialSensor.Axes
import InertialSensor.Binary32.Angle

/-!
# Scales of the two sensors

The accelerometer has four full scales, the gyro one. A scale turns the counts of a raw word into
metres per second squared or radians per second; the die temperature has a scale of its own.
-/

namespace InertialSensor

/-- Standard gravity in metres per second squared. -/
def standardGravity : Float32 := 9.80665

/-- The accelerometer's full scales. -/
inductive FullScale where
  | g2
  | g4
  | g8
  | g16
deriving DecidableEq, Repr

namespace FullScale

/-- The narrowest full scale that covers `g` times gravity, the widest where none does. -/
def covering (g : Nat) : FullScale :=
  if 8 < g then g16 else if 4 < g then g8 else if 2 < g then g4 else g2

def name : FullScale → String
  | g2 => "G2"
  | g4 => "G4"
  | g8 => "G8"
  | g16 => "G16"

/-- The full scale in multiples of gravity. -/
def multiple : FullScale → Nat
  | g2 => 2
  | g4 => 4
  | g8 => 8
  | g16 => 16

/-- Counts per multiple of gravity. -/
def countsPerG : FullScale → Nat
  | g2 => 16384
  | g4 => 8192
  | g8 => 4096
  | g16 => 2048

/-- The selector field, counting up from the narrowest scale. -/
def selector : FullScale → UInt8
  | g2 => 0
  | g4 => 1
  | g8 => 2
  | g16 => 3

/-- The content of the accelerometer's configuration register. -/
def registerValue (s : FullScale) : UInt8 := s.selector <<< 3

/-- The full scale that a configuration register's content selects. -/
def ofRegisterValue (value : UInt8) : FullScale :=
  let field := (value >>> 3) &&& 0x03
  if field = 0 then g2 else if field = 1 then g4 else if field = 2 then g8 else g16

/-- Metres per second squared per count. -/
def scale (s : FullScale) : Float32 := standardGravity / Binary32.ofNat s.countsPerG

/-- The full scale in metres per second squared. -/
def range (s : FullScale) : Float32 := Binary32.ofNat s.multiple * standardGravity

end FullScale

/-! ### Gyro -/

/-- The gyro's full scale in degrees per second. -/
def gyroDegreesPerSecond : Nat := 2000

/-- Radians per second per count. -/
def gyroScale : Float32 :=
  (Binary32.pi / 180.0) * (Binary32.ofNat gyroDegreesPerSecond / 32768.0)

/-- The gyro's full scale in radians per second. -/
def gyroRange : Float32 := Binary32.toRadians (Binary32.ofNat gyroDegreesPerSecond)

/-! ### Temperature -/

/-- Degrees Celsius from the raw temperature word. -/
def celsius (raw : Int16) : Float32 := Binary32.ofInt16 raw / 326.8 + 25.0

end InertialSensor
