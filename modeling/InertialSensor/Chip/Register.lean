/-!
# Registers of the chip

Addresses and bit patterns, the registers whose content is verified while sampling, and the
packing of a device id.
-/

namespace InertialSensor.Register

/-! ### Addresses -/

def rateDivider : UInt8 := 0x19

def filterConfig : UInt8 := 0x1A

def gyroConfig : UInt8 := 0x1B

def accelConfig : UInt8 := 0x1C

def interruptPin : UInt8 := 0x37

def interruptEnable : UInt8 := 0x38

/-- The first byte of the data block: status, then accel, temperature and gyro words. -/
def interruptStatus : UInt8 := 0x3A

def userControl : UInt8 := 0x6A

def power : UInt8 := 0x6B

def identity : UInt8 := 0x75

/-- The last register of a register dump, which starts at register zero. -/
def lastDumped : Nat := 108

/-- The number of registers in the chip's register file. -/
def count : Nat := 128

/-- The registers verified while sampling, in the order in which they are verified. The power
register, which selects the clock source, comes first: a wrong clock source is never repaired by
writing that register anew. -/
def checked : Vector UInt8 8 :=
  #v[power, userControl, rateDivider, filterConfig, gyroConfig, accelConfig, interruptEnable,
    interruptPin]

/-- The place of a register among the checked ones. -/
def checkedIndex? (address : UInt8) : Option (Fin 8) :=
  checked.finIdxOf? address

theorem address_of_checkedIndex? {address : UInt8} {i : Fin 8}
    (h : checkedIndex? address = some i) : checked[i] = address := by
  unfold checkedIndex? Vector.finIdxOf? at h
  obtain ⟨j, found, rfl⟩ := Option.map_eq_some_iff.1 h
  exact (Array.finIdxOf?_eq_some_iff.1 found).1

/-! ### Bit patterns -/

/-- Written to the power register, resets the chip; read from it, says the reset is not over. -/
def resetBit : UInt8 := 0x80

/-- Power register: run from the best clock available. -/
def bestClock : UInt8 := 0x03

/-- Power register after a reset: asleep, on the internal oscillator. -/
def asleep : UInt8 := 0x41

/-- Gyro register: the widest full scale. -/
def gyroWidest : UInt8 := 0x18

/-- Interrupt enable and status: data is ready. -/
def dataReady : UInt8 := 0x01

/-- Interrupt pin: any read clears the status. -/
def anyReadClears : UInt8 := 0x10

/-- The content of the identity register. -/
def identityValue : UInt8 := 0x12

end InertialSensor.Register

namespace InertialSensor

/-- How a sensor is reached, as recorded in its device id. -/
inductive Connection where
  | unknown
  | i2c
  | spi
  | simulated

namespace Connection

def code : Connection → UInt32
  | unknown => 0
  | i2c => 1
  | spi => 2
  | simulated => 3

end Connection

/-- The chip's tag in a device id. -/
def chipTag : UInt8 := 0x2D

/-- A device id: three bits of connection, five bits of bus number, then address and chip tag. -/
def deviceId (connection : Connection) (bus address tag : UInt8) : UInt32 :=
  let busField : UInt32 := bus.toUInt32 &&& 0x1F
  connection.code ||| busField <<< 3 ||| address.toUInt32 <<< 8 ||| tag.toUInt32 <<< 16

end InertialSensor
