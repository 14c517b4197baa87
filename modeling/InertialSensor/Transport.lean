/-!
# Transport

The driver reaches the sensor through single register writes and reads of consecutive registers.
A read fills a buffer and tells how many bytes it claims to have moved, which need not be the
buffer's length; either transfer may fail with a text. Every type with these operations is a
transport, so that what is proved about the driver holds for every behaviour of the bus.
-/

namespace InertialSensor

/-- The clock of a transfer. The fast clock is meant for data and status registers. -/
inductive Speed where
  | low
  | high
deriving DecidableEq, Repr

/-- The clock in hertz. -/
def Speed.hertz : Speed → Nat
  | low => 1000000
  | high => 20000000

/-- Where the sensor sits. -/
inductive Placement where
  | internal
  | external
deriving DecidableEq, Repr

def Placement.text : Placement → String
  | internal => "internal"
  | external => "external"

/-- What a read of `n` registers left in the buffer, and the number of bytes it claims. -/
structure Reading (n : Nat) where
  bytes : Vector UInt8 n
  count : Nat

/-- Register access to a sensor, as a state of type `σ`. -/
class Transport (σ : Type) where
  /-- Reads consecutive registers from an address on into a buffer. -/
  read {n : Nat} (address : UInt8) (speed : Speed) (buffer : Vector UInt8 n) (bus : σ) :
    Except String (Reading n) × σ
  /-- Writes one register. -/
  write (address value : UInt8) (bus : σ) : Except String Unit × σ
  placement (bus : σ) : Placement
  deviceId (bus : σ) : UInt32

end InertialSensor
