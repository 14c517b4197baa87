import InertialSensor.Axes

/-!
# Raw samples

One reading of the chip: acceleration, die temperature and angular rate as signed sixteen-bit
words. In the data block a status byte comes first and the seven words follow, the high byte of
each first. `ofBlock_block` says that decoding undoes encoding.
-/

namespace InertialSensor

/-- The number of bytes in the data block. -/
def blockSize : Nat := 15

/-- One reading in the sensor's own frame. -/
structure Sample where
  accel : Axes Int16
  temperature : Int16
  gyro : Axes Int16
deriving DecidableEq, Repr

namespace Sample

/-! ### Words -/

/-- The high byte of a word. -/
def highByte (w : Int16) : UInt8 := (w.toUInt16 >>> 8).toUInt8

/-- The low byte of a word. -/
def lowByte (w : Int16) : UInt8 := w.toUInt16.toUInt8

/-- The word with the given bytes. -/
def word (high low : UInt8) : Int16 := (high.toUInt16 <<< 8 ||| low.toUInt16).toInt16

@[simp] theorem word_bytes (w : Int16) : word (highByte w) (lowByte w) = w := by
  apply Int16.toBitVec_inj.1
  simp only [word, highByte, lowByte, UInt16.toBitVec_toInt16, UInt16.toBitVec_or,
    UInt16.toBitVec_shiftLeft, UInt8.toBitVec_toUInt16, UInt16.toBitVec_toUInt8,
    UInt16.toBitVec_shiftRight]
  apply BitVec.eq_of_getLsbD_eq
  intro i hi
  simp only [BitVec.getLsbD_or, BitVec.shiftLeft_eq', BitVec.ushiftRight_eq',
    BitVec.getLsbD_shiftLeft, BitVec.getLsbD_setWidth, BitVec.getLsbD_ushiftRight]
  by_cases h : i < 8
  · simp [h, hi]
  · have back : 8 + (i - 8) = i := by omega
    have fits : i - 8 < 8 := by omega
    have wide : i - 8 < 16 := by omega
    simp [h, hi, back, fits, wide]

/-! ### The data block -/

/-- The data block with the given status byte. -/
def block (status : UInt8) (s : Sample) : Vector UInt8 blockSize :=
  #v[status,
    highByte s.accel.x, lowByte s.accel.x, highByte s.accel.y, lowByte s.accel.y,
    highByte s.accel.z, lowByte s.accel.z, highByte s.temperature, lowByte s.temperature,
    highByte s.gyro.x, lowByte s.gyro.x, highByte s.gyro.y, lowByte s.gyro.y,
    highByte s.gyro.z, lowByte s.gyro.z]

/-- The sample in a data block. -/
def ofBlock (b : Vector UInt8 blockSize) : Sample where
  accel := ⟨word b[1] b[2], word b[3] b[4], word b[5] b[6]⟩
  temperature := word b[7] b[8]
  gyro := ⟨word b[9] b[10], word b[11] b[12], word b[13] b[14]⟩

theorem ofBlock_block (status : UInt8) (s : Sample) : ofBlock (s.block status) = s := by
  obtain ⟨⟨ax, ay, az⟩, t, ⟨gx, gy, gz⟩⟩ := s
  change Sample.mk ⟨word (highByte ax) (lowByte ax), word (highByte ay) (lowByte ay),
      word (highByte az) (lowByte az)⟩ (word (highByte t) (lowByte t))
    ⟨word (highByte gx) (lowByte gx), word (highByte gy) (lowByte gy),
      word (highByte gz) (lowByte gz)⟩ = _
  simp only [word_bytes]

/-- The bytes of the three accel words. -/
def accelBytes (b : Vector UInt8 blockSize) : Vector UInt8 6 :=
  #v[b[1], b[2], b[3], b[4], b[5], b[6]]

/-- Every word is zero: what a transfer delivers when the bus, not the sensor, answered. -/
def isZero (s : Sample) : Bool :=
  s.accel = .replicate 0 && s.temperature = 0 && s.gyro = .replicate 0

end Sample

/-- From the sensor's frame to the board's: `x` becomes the old `y`, and `y` the negated old `x`.
The lowest word has no negative, and becomes the highest. -/
def boardFrame (v : Axes Int16) : Axes Int16 :=
  ⟨v.y, if v.x = Int16.minValue then Int16.maxValue else -v.x, v.z⟩

end InertialSensor
