/-!
# Hexadecimal text
-/

namespace InertialSensor.Hex

/-- Lower-case digits, padded with zeros to a width. -/
def lower (width n : Nat) : String :=
  let digits := Nat.toDigits 16 n
  String.ofList (List.replicate (width - digits.length) '0' ++ digits)

/-- Upper-case digits, padded with zeros to a width. -/
def upper (width n : Nat) : String := (lower width n).toUpper

/-- A byte as two upper-case digits. -/
def byte (b : UInt8) : String := upper 2 b.toNat

/-- A list of bytes, as in `[01, FF]`. -/
def bytes (bs : List UInt8) : String := "[" ++ ", ".intercalate (bs.map byte) ++ "]"

end InertialSensor.Hex
