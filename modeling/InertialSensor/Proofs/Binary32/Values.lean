import Mathlib
import InertialSensor.Chip.Rate

/-!
# The value of a binary32 number

Every binary32 number that is neither infinite nor NaN stands for a rational number, its `value`.
Each of them is unpacked in one form only, the one with as many digits as there is room for
(`Canonical`), and a number in that form survives packing (`unpack_pack`). So numbers compare as
their values do (`lt_iff_value`), and the conversions to whole numbers can be read off the value:
`toNearestNat` rounds it, and `wholeHertz` drops its fraction, up to the largest word.
-/

namespace InertialSensor.Binary32

open Float.Model (Format UnpackedFloat)
open Float.Model.UnpackedFloat

/-! ### Values -/

/-- The factor of a sign. -/
def signum : Sign → ℚ
  | .positive => 1
  | .negative => -1

/-- The rational that an unpacked number stands for; zero for infinity and NaN. -/
def exact : UnpackedFloat → ℚ
  | .finite s m e _ => signum s * (m * 2 ^ e)
  | _ => 0

lemma exact_zero (s : Sign) : exact (.zero s) = 0 := rfl

/-- The rational that a number stands for; zero for infinity and NaN. -/
def value (x : Float32) : ℚ := exact x.toModel.unpack

@[simp] lemma signum_mul (s t : Sign) : signum (s * t) = signum s * signum t := by
  cases s <;> cases t <;> simp only [signum, mul_neg, mul_one, neg_neg]

@[simp] lemma signum_div (s t : Sign) : signum (s / t) = signum s * signum t := signum_mul s t

@[simp] lemma signum_neg (s : Sign) : signum (-s) = -signum s := by cases s <;> rfl

@[simp] lemma abs_signum (s : Sign) : |signum s| = 1 := by cases s <;> simp [signum]

lemma cast_apply (s : Sign) (n : Nat) : ((s.apply n : ℤ) : ℚ) = signum s * n := by
  cases s <;> simp [Sign.apply, signum]

/-! ### The one unpacked form -/

/-- A finite number has as many digits as there is room for. Its mantissa has 24 binary digits,
unless the exponent is the least there is. -/
def Canonical : UnpackedFloat → Prop
  | .finite _ m e _ => m < 2 ^ 24 ∧ -149 ≤ e ∧ (2 ^ 23 ≤ m ∨ e = -149)
  | _ => True

/-- The exponent is not too large to be stored. -/
def Fits : UnpackedFloat → Prop
  | .finite _ _ e _ => e ≤ 104
  | _ => True

section Unpacking

variable (b : BitVec Format.binary32.numBits)

/-- The leading digit of a mantissa is not stored. -/
lemma toNat_one_append (m : BitVec 23) : (1#1 ++ m).toNat = 2 ^ 23 + m.toNat := by
  rw [BitVec.toNat_append, ← Nat.shiftLeft_add_eq_or_of_lt m.isLt]
  rfl

lemma canonical_of_bits :
    Canonical (UnpackedFloat.unpack Format.binary32 b) ∧
      Fits (UnpackedFloat.unpack Format.binary32 b) := by
  have mantissa : (unpackMantissa b).toNat < 2 ^ 23 := (unpackMantissa b).isLt
  have exponent : (unpackExponent b).toNat < 2 ^ 8 := (unpackExponent b).isLt
  unfold UnpackedFloat.unpack
  dsimp only
  split
  · split <;> exact ⟨trivial, trivial⟩
  next filled =>
  have room : (unpackExponent b).toNat ≠ 255 :=
    fun h => filled (BitVec.eq_of_toNat_eq (by simpa using h))
  split
  next empty =>
    have least : (unpackExponent b).toNat = 0 := by rw [empty]; rfl
    split
    · exact ⟨trivial, trivial⟩
    · simp only [Canonical, Fits, Format.exponentBias, least]
      omega
  next some =>
    have least : (unpackExponent b).toNat ≠ 0 := fun h => some (BitVec.eq_of_toNat_eq h)
    simp only [Canonical, Fits, Format.exponentBias, toNat_one_append]
    omega

lemma canonical_unpack (x : Float32) : Canonical x.toModel.unpack :=
  (canonical_of_bits x.toModel.toBits.toBitVec).1

lemma fits_unpack (x : Float32) : Fits x.toModel.unpack :=
  (canonical_of_bits x.toModel.toBits.toBitVec).2

end Unpacking

section Packing

variable (s : Sign) (m : BitVec 23)

@[simp] lemma unpackSign_packComponents {spec : Format} (e : BitVec spec.exponentBits)
    (m : BitVec spec.mantissaBitsWithoutImplicit) :
    unpackSign (packComponents spec s e m) = s.toBitVec := by
  apply BitVec.eq_of_getLsbD_eq
  intro i hi
  obtain rfl : i = 0 := by omega
  simp [unpackSign, packComponents, BitVec.getLsbD_append, BitVec.getElem_append]

@[simp] lemma ofBitVec_toBitVec : Sign.ofBitVec s.toBitVec = s := by cases s <;> rfl

lemma unpack_of_normal {e : BitVec 8} (some : e ≠ 0#8) (room : e ≠ -1#8) :
    UnpackedFloat.unpack Format.binary32 (packComponents Format.binary32 s e m) =
      .finite s (2 ^ 23 + m.toNat) (e.toNat - 150) (by omega) := by
  simp only [UnpackedFloat.unpack, unpackExponent_packComponents, unpackMantissa_packComponents,
    unpackSign_packComponents, ofBitVec_toBitVec, toNat_one_append, some, room, if_false]
  rfl

lemma unpack_of_subnormal (some : 0 < m.toNat) :
    UnpackedFloat.unpack Format.binary32 (packComponents Format.binary32 s 0#8 m) =
      .finite s m.toNat (-149) some := by
  have nonzero : m ≠ 0#23 := fun h => by simp [h] at some
  simp only [UnpackedFloat.unpack, unpackExponent_packComponents, unpackMantissa_packComponents,
    unpackSign_packComponents, ofBitVec_toBitVec, nonzero, dif_neg, not_false_eq_true]
  rfl

end Packing

/-- A number in the one form survives packing. -/
lemma unpack_pack {f : UnpackedFloat} (canonical : Canonical f) (fits : Fits f) :
    (Float32.Model.pack f).unpack = f := by
  show UnpackedFloat.unpack Format.binary32 (UnpackedFloat.pack Format.binary32 f) = f
  cases f with
  | notANumber => rfl
  | infinity s => cases s <;> rfl
  | zero s => cases s <;> rfl
  | finite s m e positive =>
    obtain ⟨below, least, full⟩ := canonical
    have most : e ≤ 104 := fits
    have biased : (e + Format.binary32.exponentBias +
        Format.binary32.mantissaBitsWithoutImplicit).toNat = (e + 150).toNat := by
      simp only [Format.exponentBias]
      omega
    have room : ¬ 2 ^ Format.binary32.exponentBits ≤ (e + 150).toNat + 1 := by
      simp only
      omega
    have digits : m.log2 + 1 = Format.binary32.mantissaBits ↔ 2 ^ 23 ≤ m := by
      have : m.log2 < 24 := (Nat.log2_lt positive.ne').2 below
      rw [← Nat.le_log2 positive.ne']
      simp only [Format.mantissaBits]
      omega
    simp only [UnpackedFloat.pack, biased, room, digits, if_false]
    by_cases normal : 2 ^ 23 ≤ m
    · have exponent : (BitVec.ofNat 8 (e + 150).toNat).toNat = (e + 150).toNat := by
        rw [BitVec.toNat_ofNat]
        omega
      have mantissa : (BitVec.ofNat 23 m).toNat = m - 2 ^ 23 := by
        rw [BitVec.toNat_ofNat]
        omega
      have some : BitVec.ofNat 8 (e + 150).toNat ≠ 0#8 := fun h => by
        rw [h, BitVec.toNat_ofNat] at exponent
        omega
      have unfilled : BitVec.ofNat 8 (e + 150).toNat ≠ -1#8 := fun h => by
        rw [h, show (-1#8).toNat = 255 from rfl] at exponent
        omega
      rw [if_pos normal, unpack_of_normal s _ some unfilled]
      congr 1 <;> omega
    · have mantissa : (BitVec.ofNat 23 m).toNat = m := by
        rw [BitVec.toNat_ofNat]
        omega
      rw [if_neg normal, unpack_of_subnormal s _ (by omega)]
      congr 1
      omega

/-! ### Comparisons -/

lemma lt_iff (x y : Float32) : x < y ↔ x.toModel.unpack.lt y.toModel.unpack = true :=
  decide_eq_true_iff

lemma le_iff (x y : Float32) : x ≤ y ↔ x.toModel.unpack.le y.toModel.unpack = true :=
  decide_eq_true_iff

lemma unpack_zero : (0 : Float32).toModel.unpack = .zero .positive := by rfl

/-- What is not above zero is at most zero, or no number. -/
lemma not_zero_lt_iff (x : Float32) : ¬ 0 < x ↔ x.isNaN = true ∨ x ≤ 0 := by
  rw [lt_iff, le_iff, unpack_zero]
  show _ ↔ x.toModel.unpack.isNaN = true ∨ _
  cases x.toModel.unpack with
  | notANumber => decide
  | infinity s => cases s <;> decide
  | zero s => cases s <;> decide
  | finite s m e h =>
    cases s <;> simp [UnpackedFloat.lt, UnpackedFloat.le, UnpackedFloat.compare,
      UnpackedFloat.isNaN]

lemma value_of_beq_zero {x : Float32} (h : (x == 0) = true) : value x = 0 := by
  change x.toModel.unpack.beq (0 : Float32).toModel.unpack = true at h
  rw [unpack_zero] at h
  unfold value
  cases unpacked : x.toModel.unpack with
  | notANumber => rfl
  | infinity => rfl
  | zero => rfl
  | finite s m e positive =>
    rw [unpacked] at h
    cases s <;> cases h

/-- The larger exponent has the larger magnitude. -/
lemma magnitude_lt {s t : Sign} {m n : Nat} {e f : ℤ} {hm : 0 < m} {hn : 0 < n}
    (left : Canonical (.finite s m e hm)) (right : Canonical (.finite t n f hn)) (h : e < f) :
    (m * 2 ^ e : ℚ) < n * 2 ^ f := by
  obtain ⟨below, least, _⟩ := left
  obtain ⟨_, _, full⟩ := right
  have above : 2 ^ 23 ≤ n := full.resolve_right (by omega)
  calc (m * 2 ^ e : ℚ) < 2 ^ 24 * 2 ^ e := by gcongr; exact_mod_cast below
    _ = 2 ^ 23 * 2 ^ (e + 1) := by rw [zpow_add₀ two_ne_zero]; ring
    _ ≤ n * 2 ^ f := by
      gcongr
      · exact_mod_cast above
      · norm_num
      · exact h

/-- Numbers of one sign compare by exponent first. -/
lemma compare_magnitude {s t : Sign} {m n : Nat} {e f : ℤ} {hm : 0 < m} {hn : 0 < n}
    (left : Canonical (.finite s m e hm)) (right : Canonical (.finite t n f hn)) :
    (compare e f).then (compare m n) = compare (m * 2 ^ e : ℚ) (n * 2 ^ f) := by
  obtain h | rfl | h := lt_trichotomy e f
  · rw [compare_lt_iff_lt.2 h, compare_lt_iff_lt.2 (magnitude_lt left right h)]
    rfl
  · have same : compare (m * 2 ^ e : ℚ) (n * 2 ^ e) = compare m n := by
      have positive : (0 : ℚ) < 2 ^ e := by positivity
      obtain h | rfl | h := lt_trichotomy m n
      · rw [compare_lt_iff_lt.2 h, compare_lt_iff_lt]
        gcongr
      · rw [compare_eq_iff_eq.2 rfl, compare_eq_iff_eq.2 rfl]
      · rw [compare_gt_iff_gt.2 h, compare_gt_iff_gt]
        show (n * 2 ^ e : ℚ) < m * 2 ^ e
        gcongr
    rw [same, compare_eq_iff_eq.2 rfl]
    rfl
  · rw [compare_gt_iff_gt.2 h, compare_gt_iff_gt.2 (magnitude_lt right left h)]
    rfl

lemma lt_iff_exact {f g : UnpackedFloat} (left : Canonical f) (right : Canonical g)
    (finite : f.isFinite = true) (finite' : g.isFinite = true) :
    f.lt g = true ↔ exact f < exact g := by
  cases f with
  | notANumber => cases finite
  | infinity => cases finite
  | zero s =>
    cases g with
    | notANumber => cases finite'
    | infinity => cases finite'
    | zero t => simp [UnpackedFloat.lt, UnpackedFloat.compare, exact]
    | finite t n f hn =>
      have positive : (0 : ℚ) < n * 2 ^ f := by positivity
      cases t <;> simp [UnpackedFloat.lt, UnpackedFloat.compare, exact, signum, positive,
        positive.le]
  | finite s m e hm =>
    have positive : (0 : ℚ) < m * 2 ^ e := by positivity
    cases g with
    | notANumber => cases finite'
    | infinity => cases finite'
    | zero t => cases s <;> simp [UnpackedFloat.lt, UnpackedFloat.compare, exact, signum, positive,
        positive.le]
    | finite t n f hn =>
      have positive' : (0 : ℚ) < n * 2 ^ f := by positivity
      have order := compare_magnitude left right
      cases s with
      | positive =>
        cases t with
        | positive =>
          simp [UnpackedFloat.lt, UnpackedFloat.compare, exact, signum, order, compare_lt_iff_lt]
        | negative =>
          simp [UnpackedFloat.lt, UnpackedFloat.compare, exact, signum]
          linarith
      | negative =>
        cases t with
        | positive =>
          simp [UnpackedFloat.lt, UnpackedFloat.compare, exact, signum]
          linarith
        | negative =>
          simp [UnpackedFloat.lt, UnpackedFloat.compare, exact, signum, order, compare_gt_iff_gt]

lemma lt_iff_value {x y : Float32} (finite : x.isFinite = true) (finite' : y.isFinite = true) :
    x < y ↔ value x < value y :=
  (lt_iff x y).trans (lt_iff_exact (canonical_unpack x) (canonical_unpack y) finite finite')

/-! ### Rounding to whole numbers -/

lemma scaleDown_eq (n d : Nat) (e : ℤ) :
    ((scaleDown n d e).1 : ℚ) / (scaleDown n d e).2 = n / d / 2 ^ e := by
  unfold scaleDown
  split
  next up =>
    obtain ⟨k, rfl⟩ := Int.eq_ofNat_of_zero_le up
    simp [Nat.shiftLeft_eq, div_div]
  next down =>
    obtain ⟨k, hk⟩ := Int.eq_ofNat_of_zero_le (show 0 ≤ -e by omega)
    obtain rfl : e = -k := by omega
    simp [Nat.shiftLeft_eq]
    ring

lemma scaleDown_pos (n : Nat) {d : Nat} (positive : 0 < d) (e : ℤ) : 0 < (scaleDown n d e).2 := by
  unfold scaleDown
  split
  · simp [Nat.shiftLeft_eq, positive]
  · exact positive

lemma roundHalfUp_eq (n d : Nat) (positive : 0 < d) :
    roundHalfUp n d = ⌊(n / d : ℚ) + 1 / 2⌋₊ := by
  have sum : (n / d : ℚ) + 1 / 2 = ((2 * n + d : ℕ) : ℚ) / (2 * d : ℕ) := by
    have : (d : ℚ) ≠ 0 := by positivity
    push_cast
    field_simp
  rw [sum, Nat.floor_div_eq_div, roundHalfUp]

/-- A number that is not negative is rounded to the nearest whole number, an exact half up. -/
lemma toNearestNat_eq {x : Float32} (h : 0 ≤ value x) : toNearestNat x = ⌊value x + 1 / 2⌋₊ := by
  have half : ⌊(0 : ℚ) + 1 / 2⌋₊ = 0 := by norm_num
  unfold value at h ⊢
  unfold toNearestNat parts
  revert h
  cases x.toModel.unpack with
  | notANumber => exact fun _ => half.symm
  | infinity s => cases s <;> exact fun _ => half.symm
  | zero s => cases s <;> exact fun _ => half.symm
  | finite s m e positive =>
    intro h
    have above : (0 : ℚ) < m * 2 ^ e := by positivity
    cases s with
    | negative =>
      simp only [exact, signum] at h
      linarith
    | positive =>
      show roundHalfUp (scaleDown m 1 (-e)).1 (scaleDown m 1 (-e)).2 = _
      rw [roundHalfUp_eq _ _ (scaleDown_pos _ one_pos _), scaleDown_eq]
      simp [exact, signum]

/-! ### Dropping fractions -/

lemma mantissa_shiftRight (em : ExtendedMantissa) (k : Nat) :
    (em >>> k).mantissa = em.mantissa / 2 ^ k := by
  show (k.repeat ExtendedMantissa.shiftRightOne em).mantissa = _
  induction k with
  | zero => simp [Nat.repeat]
  | succ k ih =>
    show (k.repeat ExtendedMantissa.shiftRightOne em).mantissa / 2 = _
    rw [ih, Nat.div_div_eq_div_mul, pow_succ]

/-- Towards zero, a number that is not negative is rounded down. -/
lemma roundToInt_eq (m : Nat) (e : ℤ) : roundToInt .positive m e = ⌊(m * 2 ^ e : ℚ)⌋₊ := by
  simp only [roundToInt, decreaseExponent, shiftToExponent, mantissa_shiftRight,
    ExtendedMantissa.ofMantissaAndAccuracy, Sign.apply]
  obtain up | down := le_total 0 e
  · obtain ⟨k, rfl⟩ := Int.eq_ofNat_of_zero_le up
    have whole : (m * 2 ^ (k : ℤ) : ℚ) = (m * 2 ^ k : ℕ) := by simp
    rw [whole, Nat.floor_natCast]
    simp [Nat.shiftLeft_eq]
  · obtain ⟨k, hk⟩ := Int.eq_ofNat_of_zero_le (show 0 ≤ -e by omega)
    obtain rfl : e = -k := by omega
    have quotient : (m * 2 ^ (-k : ℤ) : ℚ) = (m : ℚ) / (2 ^ k : ℕ) := by
      simp [div_eq_mul_inv]
    rw [quotient, Nat.floor_div_eq_div]
    simp

lemma toInt_eq {f : UnpackedFloat} (finite : f.isFinite = true) (h : 0 ≤ exact f) (low high : ℤ) :
    f.toInt low high = ⌊exact f⌋₊ := by
  cases f with
  | notANumber => cases finite
  | infinity => cases finite
  | zero s => simp [UnpackedFloat.toInt, exact]
  | finite s m e positive =>
    have above : (0 : ℚ) < m * 2 ^ e := by positivity
    cases s with
    | negative =>
      simp only [exact, signum] at h
      linarith
    | positive => simp [UnpackedFloat.toInt, roundToInt_eq, exact, signum]

lemma toNat_ofNatClamp (n : Nat) : (UInt16.ofNatClamp n).toNat = min n 65535 := by
  unfold UInt16.ofNatClamp
  split
  next below =>
    rw [UInt16.toNat_ofNatLT, min_eq_left (by simpa [UInt16.size] using Nat.le_of_lt_succ below)]
  next above =>
    exact (min_eq_right (by simpa [UInt16.size] using Nat.le_of_lt (not_lt.1 above))).symm

/-- The fraction of a cutoff is dropped, up to the largest word. -/
lemma wholeHertz_eq {x : Float32} (finite : x.isFinite = true) (h : 0 ≤ value x) :
    wholeHertz x = min ⌊value x⌋₊ 65535 := by
  show (UInt16.ofNatClamp (x.toModel.unpack.toInt 0 (UInt16.size - 1)).toNat).toNat = _
  rw [toNat_ofNatClamp, toInt_eq finite h, Int.toNat_natCast]
  rfl

lemma wholeHertz_of_infinite {x : Float32} (h : x.toModel.unpack = .infinity .positive) :
    wholeHertz x = 65535 := by
  show (UInt16.ofNatClamp (x.toModel.unpack.toInt 0 (UInt16.size - 1)).toNat).toNat = _
  rw [h]
  rfl

end InertialSensor.Binary32
