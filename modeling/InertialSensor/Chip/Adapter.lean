/-!
# USB adapter

A sensor may sit behind a USB adapter with a serial bus. Here are the adapter's status codes, the
failures it adds, and the set-up of a channel in the clock mode that the sensor needs.
-/

namespace InertialSensor.Adapter

/-- The names of the status codes, by code. -/
def statusNames : List String :=
  ["FT_OK", "FT_INVALID_HANDLE", "FT_DEVICE_NOT_FOUND", "FT_DEVICE_NOT_OPENED", "FT_IO_ERROR",
    "FT_INSUFFICIENT_RESOURCES", "FT_INVALID_PARAMETER", "FT_INVALID_BAUD_RATE",
    "FT_DEVICE_NOT_OPENED_FOR_ERASE", "FT_DEVICE_NOT_OPENED_FOR_WRITE",
    "FT_FAILED_TO_WRITE_DEVICE", "FT_EEPROM_READ_FAILED", "FT_EEPROM_WRITE_FAILED",
    "FT_EEPROM_ERASE_FAILED", "FT_EEPROM_NOT_PRESENT", "FT_EEPROM_NOT_PROGRAMMED",
    "FT_INVALID_ARGS", "FT_NOT_SUPPORTED", "FT_OTHER_ERROR"]

/-- The name of a status code. -/
def statusName (code : Nat) : String := statusNames[code]?.getD "UNKNOWN_ERROR"

/-- The causes for which the adapter fails. -/
inductive Failure where
  | status (code : Nat)
  | noChannels
  | invalidChannel (index : Nat)

namespace Failure

def message : Failure → String
  | status code => s!"FTDI error: {code} ({statusName code})"
  | noChannels => "No SPI channels found"
  | invalidChannel index => s!"Invalid channel index: {index}"

end Failure

/-- The set-up of a serial channel. -/
structure Channel where
  clock : Nat
  latency : Nat
  options : UInt32
  pin : Nat
  reserved : Nat

/-- Option bits for clock mode three. -/
def mode3Bits : UInt32 := 0x03

/-- Option bit for a select line that is active when low. -/
def selectActiveLow : UInt32 := 0x20

/-- A channel in clock mode three whose first select line is active when low. -/
def Channel.mode3 (hertz : Nat) : Channel where
  clock := hertz
  latency := 1
  options := mode3Bits ||| selectActiveLow
  pin := 0
  reserved := 0

end InertialSensor.Adapter
