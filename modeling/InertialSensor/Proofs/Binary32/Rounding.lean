import InertialSensor.Proofs.Binary32.Values

/-!
# Arithmetic rounds once

Sum, difference, product and quotient of two binary32 numbers are computed with as many digits as it
takes, and are then cut to the digits there is room for. Two bits stand for all that was cut off
(`StandsFor`), and they are enough to round to the nearest number. So the result of every operation
is `Nearest` to the exact result: it is off by half a unit in its last place at most. Two things
follow for those who calculate with such numbers. A result that is itself a binary32 number is met
exactly (`Nearest.eq_of_short`), and any other one up to a small factor (`Nearest.relative`).
-/

namespace InertialSensor.Binary32

open Float.Model (Format UnpackedFloat totalExponent)
open Float.Model.UnpackedFloat

/-! ### The digits that are cut off -/

/-- A mantissa and the two bits behind it are what is left of a rational: the first tells whether
the rest is at least one half, the second whether there is anything else. -/
def StandsFor (em : ExtendedMantissa) (x : ℚ) : Prop :=
  match em.roundBit, em.stickyBit with
  | false, false => x = em.mantissa
  | false, true => em.mantissa < x ∧ x < em.mantissa + 1 / 2
  | true, false => x = em.mantissa + 1 / 2
  | true, true => em.mantissa + 1 / 2 < x ∧ x < em.mantissa + 1

namespace StandsFor

variable {em : ExtendedMantissa} {x : ℚ}

lemma shiftRightOne (h : StandsFor em x) : StandsFor em.shiftRightOne (x / 2) := by
  obtain ⟨m, round, sticky⟩ := em
  have halves : (2 * (m / 2 : ℕ) + (m % 2 : ℕ) : ℚ) = m := by exact_mod_cast Nat.div_add_mod m 2
  have half : StandsFor (ExtendedMantissa.shiftRightOne ⟨m, round, sticky⟩) (x / 2) ↔
      StandsFor ⟨m / 2, m % 2 != 0, round || sticky⟩ (x / 2) := Iff.rfl
  rw [half]
  -- The last digit of the mantissa becomes the bit behind it, and that one joins the rest.
  obtain even | odd := Nat.mod_two_eq_zero_or_one m
  · rw [even, Nat.cast_zero] at halves
    rw [even]
    cases round <;> cases sticky <;> simp [StandsFor] at h ⊢
    · linarith
    · constructor <;> linarith
    · constructor <;> linarith
    · constructor <;> linarith
  · rw [odd, Nat.cast_one] at halves
    rw [odd]
    cases round <;> cases sticky <;> simp [StandsFor] at h ⊢
    · linarith
    · constructor <;> linarith
    · constructor <;> linarith
    · constructor <;> linarith

lemma shiftRight (h : StandsFor em x) (k : Nat) : StandsFor (em >>> k) (x / 2 ^ k) := by
  show StandsFor (k.repeat ExtendedMantissa.shiftRightOne em) _
  induction k with
  | zero => simpa [Nat.repeat] using h
  | succ k ih =>
    rw [pow_succ, ← div_div]
    exact ih.shiftRightOne

/-- Rounding by the two bits is off by one half at most. -/
lemma rounded (h : StandsFor em x) : |em.roundedMantissa - x| ≤ 1 / 2 := by
  obtain ⟨m, round, sticky⟩ := em
  rw [abs_le]
  cases round <;> cases sticky <;>
    simp only [StandsFor, ExtendedMantissa.roundedMantissa, ExtendedMantissa.accuracy,
      Accuracy.roundToNearestEven] at h ⊢
  · constructor <;> linarith
  · constructor <;> linarith
  · have : m % 2 ≤ 1 := by omega
    have : ((m % 2 : ℕ) : ℚ) ≤ 1 := by exact_mod_cast this
    push_cast
    constructor <;> linarith [Nat.cast_nonneg (α := ℚ) (m % 2)]
  · push_cast
    constructor <;> linarith

end StandsFor

lemma roundedMantissa_bounds (em : ExtendedMantissa) :
    em.mantissa ≤ em.roundedMantissa ∧ em.roundedMantissa ≤ em.mantissa + 1 := by
  obtain ⟨m, round, sticky⟩ := em
  cases round <;> cases sticky <;>
    simp only [ExtendedMantissa.roundedMantissa, ExtendedMantissa.accuracy,
      Accuracy.roundToNearestEven] <;> omega

lemma standsFor_of_exact (m : Nat) :
    StandsFor (ExtendedMantissa.ofMantissaAndAccuracy m .exact) m := by
  simp [StandsFor, ExtendedMantissa.ofMantissaAndAccuracy]

/-- The two bits behind a quotient are told by its remainder. -/
lemma standsFor_of_quotient (a : Nat) {b : Nat} (positive : 0 < b) :
    StandsFor (ExtendedMantissa.ofMantissaAndAccuracy (a / b) (accuracyOfFraction (a % b) b))
      (a / b : ℚ) := by
  have below := Nat.mod_lt a positive
  have divided : (a / b : ℚ) = (a / b : ℕ) + (a % b : ℕ) / b := by
    have : (b : ℚ) ≠ 0 := by positivity
    rw [eq_comm, ← mul_left_inj' this, add_mul, div_mul_cancel₀ _ this, div_mul_cancel₀ _ this]
    exact_mod_cast Nat.div_add_mod' a b
  rw [divided]
  generalize a / b = m
  generalize a % b = r at below
  have base : (0 : ℚ) < b := by exact_mod_cast positive
  unfold accuracyOfFraction
  split
  next none => simp [none, StandsFor, ExtendedMantissa.ofMantissaAndAccuracy]
  next some =>
    have more : (0 : ℚ) < r / b := by positivity
    have less : (r / b : ℚ) < 1 := by rw [div_lt_one base]; exact_mod_cast below
    obtain h | h | h := lt_trichotomy (2 * r) b
    · have : (r / b : ℚ) < 1 / 2 := by
        rw [div_lt_div_iff₀ base two_pos, mul_comm]
        exact_mod_cast (by omega : 2 * r < 1 * b)
      simp [compare_lt_iff_lt.2 h, StandsFor, ExtendedMantissa.ofMantissaAndAccuracy]
      constructor <;> linarith
    · have : (r / b : ℚ) = 1 / 2 := by
        rw [div_eq_div_iff base.ne' two_ne_zero, mul_comm]
        exact_mod_cast (by omega : 2 * r = 1 * b)
      simp [compare_eq_iff_eq.2 h, StandsFor, ExtendedMantissa.ofMantissaAndAccuracy]
      linarith
    · have : (1 / 2 : ℚ) < r / b := by
        rw [div_lt_div_iff₀ two_pos base, mul_comm (r : ℚ)]
        exact_mod_cast (by omega : 1 * b < 2 * r)
      simp [compare_gt_iff_gt.2 h, StandsFor, ExtendedMantissa.ofMantissaAndAccuracy]
      constructor <;> linarith

/-! ### Rounding -/

lemma targetExponent_eq (t : ℤ) : Format.binary32.targetExponent t = max (t - 24) (-149) := rfl

lemma shiftToExponent_eq (m : Nat) {e t : ℤ} (acc : Accuracy) (h : e ≤ t) :
    shiftToExponent m e acc t =
      (ExtendedMantissa.ofMantissaAndAccuracy m acc >>> (t - e).toNat, t) := by
  have : e + (t - e).toNat = t := by omega
  rw [shiftToExponent, this]

/-- The first cut leaves 24 digits, or what is there at the least exponent. -/
lemma first_cut {m : Nat} {e : ℤ} {acc : Accuracy} {x : ℚ}
    (h : StandsFor (ExtendedMantissa.ofMantissaAndAccuracy m acc) x)
    (enough : e ≤ Format.binary32.targetExponent (totalExponent m e)) :
    ∃ em t, shiftToTargetExponent Format.binary32 m e acc = (em, t) ∧
      StandsFor em (x * 2 ^ e / 2 ^ t) ∧ em.mantissa < 2 ^ 24 ∧ -149 ≤ t ∧
      (2 ^ 23 ≤ em.mantissa ∨ t = -149) := by
  have start : (ExtendedMantissa.ofMantissaAndAccuracy m acc).mantissa = m := by
    obtain _ | (_ | _ | _) := acc <;> rfl
  refine ⟨_, _, shiftToExponent_eq m acc enough, ?_⟩
  have target := targetExponent_eq (totalExponent m e)
  unfold totalExponent at target enough ⊢
  generalize Format.binary32.targetExponent _ = t at target enough ⊢
  obtain ⟨k, rfl⟩ : ∃ k : ℕ, t = e + k := ⟨(t - e).toNat, by omega⟩
  have width : (e + k - e).toNat = k := by omega
  have scaled : x * 2 ^ e / 2 ^ (e + k : ℤ) = x / 2 ^ k := by
    rw [zpow_add₀ two_ne_zero, zpow_natCast]
    have : (2 : ℚ) ^ e ≠ 0 := by positivity
    field_simp
  rw [width, scaled, mantissa_shiftRight, start]
  refine ⟨h.shiftRight k, ?_, by omega, ?_⟩
  · have : m < 2 ^ 24 * 2 ^ k := by
      rw [← pow_add]
      exact Nat.lt_log2_self.trans_le (Nat.pow_le_pow_right two_pos (by omega))
    exact Nat.div_lt_of_lt_mul (mul_comm (2 ^ 24) (2 ^ k) ▸ this)
  · rw [or_iff_not_imp_right]
    intro free
    have digits : m.log2 = 23 + k := by omega
    have some : m ≠ 0 := by
      rintro rfl
      rw [Nat.log2_zero] at digits
      omega
    rw [Nat.le_div_iff_mul_le (by positivity), ← pow_add, ← digits]
    exact Nat.log2_self_le some

/-- The second cut makes room for a carry, and cuts off nothing else than a zero. -/
lemma second_cut {r : Nat} {t : ℤ} (room : r ≤ 2 ^ 24) (least : -149 ≤ t)
    (full : 2 ^ 23 ≤ r ∨ t = -149) :
    ∃ em u, shiftToTargetExponent Format.binary32 r t .exact = (em, u) ∧
      (em.mantissa * 2 ^ u : ℚ) = r * 2 ^ t ∧ t ≤ u ∧ em.mantissa < 2 ^ 24 ∧
      (2 ^ 23 ≤ em.mantissa ∨ u = -149) := by
  obtain below | rfl := room.lt_or_eq
  · have stay : (Format.binary32.targetExponent (totalExponent r t) - t).toNat = 0 := by
      have digits : r.log2 < 24 := by
        obtain rfl | some := eq_or_ne r 0
        · decide
        · exact (Nat.log2_lt some).2 below
      rw [targetExponent_eq, totalExponent]
      omega
    refine ⟨⟨r, false, false⟩, t, ?_, rfl, le_rfl, below, full⟩
    rw [shiftToTargetExponent, shiftToExponent, stay]
    simp [ExtendedMantissa.ofMantissaAndAccuracy]
    rfl
  · have target : Format.binary32.targetExponent (totalExponent (2 ^ 24) t) = t + 1 := by
      rw [targetExponent_eq, totalExponent, Nat.log2_two_pow]
      omega
    refine ⟨_, _, shiftToExponent_eq _ _ (by omega), ?_⟩
    rw [target, show (t + 1 - t).toNat = 1 by omega, mantissa_shiftRight]
    refine ⟨?_, by omega, by decide, .inl (by decide)⟩
    rw [zpow_add₀ two_ne_zero]
    norm_num [ExtendedMantissa.ofMantissaAndAccuracy]
    ring

/-- The exponent of the last place. -/
def place : UnpackedFloat → ℤ
  | .finite _ _ e _ => e
  | _ => -149

/-- A finite number in the one form, within half a unit in its last place of a rational. -/
structure Rounded (f : UnpackedFloat) (q : ℚ) : Prop where
  finite : f.isFinite = true
  canonical : Canonical f
  error : |exact f - q| ≤ 2 ^ place f / 2

lemma rounded_roundWithAccuracy (s : Sign) {m : Nat} {e : ℤ} {acc : Accuracy} {x : ℚ}
    (h : StandsFor (ExtendedMantissa.ofMantissaAndAccuracy m acc) x)
    (enough : e ≤ Format.binary32.targetExponent (totalExponent m e)) :
    Rounded (roundWithAccuracy Format.binary32 s m e acc) (signum s * (x * 2 ^ e)) := by
  obtain ⟨em, t, first, stands, below, least, full⟩ := first_cut h enough
  have bounds := roundedMantissa_bounds em
  obtain ⟨fm, u, second, same, up, room, full'⟩ := second_cut (r := em.roundedMantissa)
    (by omega) least (full.imp_left fun _ => by omega)
  have unit : (2 : ℚ) ^ t ≤ 2 ^ u := zpow_le_zpow_right₀ one_le_two up
  have error : |(fm.mantissa * 2 ^ u : ℚ) - x * 2 ^ e| ≤ 2 ^ u / 2 := by
    have positive : (0 : ℚ) < 2 ^ t := by positivity
    calc |(fm.mantissa * 2 ^ u : ℚ) - x * 2 ^ e|
        = |(em.roundedMantissa - x * 2 ^ e / 2 ^ t) * 2 ^ t| := by
          rw [same, sub_mul, div_mul_cancel₀ _ positive.ne']
      _ = |em.roundedMantissa - x * 2 ^ e / 2 ^ t| * 2 ^ t := by
          rw [abs_mul, abs_of_pos positive]
      _ ≤ 1 / 2 * 2 ^ t := by gcongr; exact stands.rounded
      _ ≤ 2 ^ u / 2 := by linarith
  unfold roundWithAccuracy
  rw [first]
  dsimp only
  rw [second]
  dsimp only
  split
  next none =>
    obtain rfl : u = -149 := full'.resolve_left (by omega)
    refine ⟨rfl, trivial, ?_⟩
    rw [none, Nat.cast_zero, zero_mul, zero_sub, abs_neg] at error
    rw [exact_zero, zero_sub, abs_neg, abs_mul, abs_signum, one_mul]
    exact error
  next some =>
    refine ⟨rfl, ⟨room, by omega, full'⟩, ?_⟩
    rw [exact, ← mul_sub, abs_mul, abs_signum, one_mul]
    exact error

lemma log2_shiftLeft {m : Nat} (positive : 0 < m) (k : Nat) : (m <<< k).log2 = m.log2 + k := by
  rw [Nat.shiftLeft_eq, Nat.log2_eq_iff (by positivity)]
  have below : m < 2 ^ (m.log2 + 1) := Nat.lt_log2_self
  constructor
  · rw [pow_add]
    gcongr
    exact Nat.log2_self_le positive.ne'
  · rw [add_right_comm, pow_add]
    gcongr

/-- With the exponent lowered first, no digit is missing when the number is cut. -/
lemma rounded_round (s : Sign) {m : Nat} (positive : 0 < m) (e : ℤ) :
    Rounded (UnpackedFloat.round Format.binary32 s m e) (signum s * (m * 2 ^ e)) := by
  unfold UnpackedFloat.round decreaseExponent
  dsimp only
  set k := (e - Format.binary32.targetExponent (totalExponent m e)).toNat with hk
  have total : totalExponent (m <<< k) (e - k) = totalExponent m e := by
    rw [totalExponent, totalExponent, log2_shiftLeft positive]
    push_cast
    ring
  have same : (m * 2 ^ e : ℚ) = (m <<< k : ℕ) * 2 ^ (e - k) := by
    rw [Nat.shiftLeft_eq, zpow_sub₀ two_ne_zero, zpow_natCast]
    push_cast
    field_simp
  rw [same]
  refine rounded_roundWithAccuracy s (standsFor_of_exact _) ?_
  rw [total]
  omega

lemma rounded_zero (s : Sign) : Rounded (.zero s) 0 :=
  ⟨rfl, trivial, by simp [exact]; positivity⟩

lemma rounded_normalize (n e : ℤ) (s : Sign) :
    Rounded (UnpackedFloat.normalize Format.binary32 n e s) (n * 2 ^ e) := by
  unfold UnpackedFloat.normalize
  obtain below | rfl | above := lt_trichotomy n 0
  · obtain ⟨m, rfl⟩ : ∃ m : ℕ, n = -m := ⟨(-n).toNat, by omega⟩
    rw [compare_lt_iff_lt.2 below]
    simpa [signum] using rounded_round .negative (m := m) (by omega) e
  · rw [compare_eq_iff_eq.2 rfl, Int.cast_zero, zero_mul]
    exact rounded_zero s
  · obtain ⟨m, rfl⟩ := Int.eq_ofNat_of_zero_le above.le
    rw [compare_gt_iff_gt.2 above]
    simpa [signum] using rounded_round .positive (m := m) (by omega) e

/-! ### The operations before packing -/

/-- A finite number is its own rounding. -/
lemma Canonical.rounded {f : UnpackedFloat} (canonical : Canonical f) (finite : f.isFinite = true) :
    Rounded f (exact f) :=
  ⟨finite, canonical, by rw [sub_self, abs_zero]; positivity⟩

/-- Two numbers are brought to the smaller of their exponents. -/
lemma aligned (s : Sign) (m : Nat) {e t : ℤ} (le : t ≤ e) :
    ((s.apply (decreaseExponent m e t).1 : ℤ) * 2 ^ t : ℚ) = signum s * (m * 2 ^ e) := by
  obtain ⟨k, rfl⟩ : ∃ k : ℕ, e = t + k := ⟨(e - t).toNat, by omega⟩
  have width : (t + k - t).toNat = k := by omega
  rw [cast_apply, decreaseExponent, width, Nat.shiftLeft_eq, zpow_add₀ two_ne_zero, zpow_natCast]
  push_cast
  ring

lemma Canonical.neg {f : UnpackedFloat} (h : Canonical f) : Canonical f.neg := by
  cases f <;> exact h

lemma Fits.neg {f : UnpackedFloat} (h : Fits f) : Fits f.neg := by cases f <;> exact h

@[simp] lemma isFinite_neg (f : UnpackedFloat) : f.neg.isFinite = f.isFinite := by cases f <;> rfl

@[simp] lemma exact_neg (f : UnpackedFloat) : exact f.neg = -exact f := by
  cases f <;> simp [exact, UnpackedFloat.neg]

lemma apply_neg (s : Sign) (n : ℤ) : (-s).apply n = -s.apply n := by
  cases s
  · exact (neg_neg n).symm
  · rfl

/-- A difference is a sum. -/
lemma sub_eq_add (f g : UnpackedFloat) :
    UnpackedFloat.sub Format.binary32 f g = UnpackedFloat.add Format.binary32 f g.neg := by
  cases f with
  | notANumber => cases g <;> rfl
  | infinity s => cases g <;> rfl
  | zero s => cases g <;> rfl
  | finite s m e positive =>
    cases g with
    | notANumber => rfl
    | infinity => rfl
    | zero => rfl
    | finite t n e' positive' =>
      simp only [UnpackedFloat.sub, UnpackedFloat.add, UnpackedFloat.neg, apply_neg]
      rfl

/-- A dividend that is shifted far enough gives all digits of the quotient. -/
lemma digits_of_quotient {m n k : Nat} (positive : 0 < m) (positive' : 0 < n)
    (h : n.log2 + 24 ≤ m.log2 + k) : 23 ≤ ((m <<< k) / n).log2 := by
  have wide : 2 ^ 23 ≤ (m <<< k) / n := by
    rw [Nat.le_div_iff_mul_le positive', Nat.shiftLeft_eq]
    calc 2 ^ 23 * n ≤ 2 ^ 23 * 2 ^ (n.log2 + 1) := by gcongr; exact Nat.lt_log2_self.le
      _ = 2 ^ (n.log2 + 24) := by ring
      _ ≤ 2 ^ (m.log2 + k) := Nat.pow_le_pow_right two_pos h
      _ = 2 ^ m.log2 * 2 ^ k := pow_add ..
      _ ≤ m * 2 ^ k := by gcongr; exact Nat.log2_self_le positive.ne'
  rwa [Nat.le_log2 (by omega)]

section

variable {f g : UnpackedFloat} (left : Canonical f) (right : Canonical g)
  (finite : f.isFinite = true) (finite' : g.isFinite = true)
include left right finite finite'

lemma rounded_add : Rounded (UnpackedFloat.add Format.binary32 f g) (exact f + exact g) := by
  cases f with
  | notANumber => cases finite
  | infinity => cases finite
  | zero s =>
    rw [exact_zero, zero_add]
    cases g with
    | notANumber => cases finite'
    | infinity => cases finite'
    | zero t => cases s <;> cases t <;> exact rounded_zero _
    | finite => exact right.rounded rfl
  | finite s m e positive =>
    cases g with
    | notANumber => cases finite'
    | infinity => cases finite'
    | zero t =>
      rw [exact_zero, add_zero]
      exact left.rounded rfl
    | finite t n e' positive' =>
      have sum := rounded_normalize (s.apply (decreaseExponent m e (min e e')).1 +
        t.apply (decreaseExponent n e' (min e e')).1) (min e e') .positive
      rw [Int.cast_add, add_mul, aligned s m (min_le_left e e'),
        aligned t n (min_le_right e e')] at sum
      exact sum

lemma rounded_mul : Rounded (UnpackedFloat.mul Format.binary32 f g) (exact f * exact g) := by
  cases f with
  | notANumber => cases finite
  | infinity => cases finite
  | zero s =>
    rw [exact_zero, zero_mul]
    cases g with
    | notANumber => cases finite'
    | infinity => cases finite'
    | zero => exact rounded_zero _
    | finite => exact rounded_zero _
  | finite s m e positive =>
    cases g with
    | notANumber => cases finite'
    | infinity => cases finite'
    | zero t =>
      rw [exact_zero, mul_zero]
      exact rounded_zero _
    | finite t n e' positive' =>
      have enough : e + e' ≤ Format.binary32.targetExponent (totalExponent (m * n) (e + e')) := by
        obtain ⟨_, least, full⟩ := left
        obtain ⟨_, least', full'⟩ := right
        have digits : 2 ^ 23 ≤ m ∨ 2 ^ 23 ≤ n → 23 ≤ (m * n).log2 := by
          rw [Nat.le_log2 (by positivity)]
          rintro (h | h) <;> nlinarith
        rw [targetExponent_eq, totalExponent]
        omega
      have product := rounded_roundWithAccuracy (s * t) (standsFor_of_exact (m * n)) enough
      have same : signum (s * t) * ((m * n : ℕ) * 2 ^ (e + e')) =
          signum s * (m * 2 ^ e) * (signum t * (n * 2 ^ e')) := by
        rw [signum_mul, zpow_add₀ two_ne_zero]
        push_cast
        ring
      rw [same] at product
      exact product

lemma rounded_div (nonzero : exact g ≠ 0) :
    Rounded (UnpackedFloat.div Format.binary32 f g) (exact f / exact g) := by
  cases g with
  | notANumber => cases finite'
  | infinity => cases finite'
  | zero => exact absurd rfl nonzero
  | finite t n e' positive' =>
    cases f with
    | notANumber => cases finite
    | infinity => cases finite
    | zero s =>
      rw [exact_zero, zero_div]
      exact rounded_zero _
    | finite s m e positive =>
      obtain ⟨target, ht⟩ : ∃ target, min (e - e') (Format.binary32.targetExponent
          (totalExponent m e - totalExponent n e')) = target := ⟨_, rfl⟩
      obtain ⟨k, hk⟩ : ∃ k : ℕ, e - e' - target = k := Int.eq_ofNat_of_zero_le (by omega)
      have enough : target ≤ Format.binary32.targetExponent
          (totalExponent ((m <<< k) / n) target) := by
        have digits : -149 < target → 23 ≤ ((m <<< k) / n).log2 := by
          intro above
          apply digits_of_quotient positive positive'
          rw [targetExponent_eq, totalExponent, totalExponent] at ht
          omega
        rw [targetExponent_eq, totalExponent]
        omega
      have quotient := rounded_roundWithAccuracy (s / t)
        (standsFor_of_quotient (m <<< k) positive') enough
      have same : signum (s / t) * (((m <<< k : ℕ) : ℚ) / n * 2 ^ target) =
          signum s * (m * 2 ^ e) / (signum t * (n * 2 ^ e')) := by
        have exponent : e = target + k + e' := by omega
        have square : signum t = (signum t)⁻¹ := by cases t <;> norm_num [signum]
        have : (n : ℚ) ≠ 0 := by positivity
        have : (2 : ℚ) ^ e' ≠ 0 := by positivity
        rw [signum_div, exponent, zpow_add₀ two_ne_zero, zpow_add₀ two_ne_zero, Nat.shiftLeft_eq,
          zpow_natCast, div_mul_eq_div_div, div_eq_mul_inv _ (signum t), ← square]
        push_cast
        field_simp
      rw [same] at quotient
      simp only [UnpackedFloat.div, divCore, ht, hk, Int.toNat_natCast]
      exact quotient

end

/-! ### Results are nearest to what is exact -/

/-- The last place of a number counts this power of two. -/
def lastPlace (x : Float32) : ℤ := place x.toModel.unpack

/-- A finite number, within half a unit in its last place of a rational. -/
structure Nearest (x : Float32) (q : ℚ) : Prop where
  finite : x.isFinite = true
  error : |value x - q| ≤ 2 ^ lastPlace x / 2

/-- What is rounded from a number that is not too large can be stored. -/
lemma Rounded.fits {f : UnpackedFloat} {q : ℚ} (h : Rounded f q) (bound : |q| ≤ 2 ^ 126) :
    Fits f := by
  obtain ⟨finite, canonical, error⟩ := h
  cases f with
  | notANumber => trivial
  | infinity => trivial
  | zero => trivial
  | finite s m e positive =>
    obtain ⟨_, _, full⟩ := canonical
    by_contra large
    change ¬ e ≤ 104 at large
    have digits : (2 ^ 23 : ℚ) ≤ m := by exact_mod_cast full.resolve_right (by omega)
    have unit : (2 ^ 105 : ℚ) ≤ 2 ^ e := by
      rw [← zpow_natCast]
      exact zpow_le_zpow_right₀ one_le_two (by push_cast; omega)
    have size : |exact (.finite s m e positive)| = m * 2 ^ e := by
      rw [exact, abs_mul, abs_signum, one_mul, abs_of_nonneg (by positivity)]
    have near := abs_sub_abs_le_abs_sub (exact (.finite s m e positive)) q
    change _ ≤ (2 : ℚ) ^ e / 2 at error
    rw [size] at near
    nlinarith

lemma Rounded.nearest {f : UnpackedFloat} {q : ℚ} (h : Rounded f q) (bound : |q| ≤ 2 ^ 126) :
    Nearest (.ofModel (.pack f)) q := by
  have kept : (Float32.Model.pack f).unpack = f := unpack_pack h.canonical (h.fits bound)
  constructor
  · show (Float32.Model.pack f).unpack.isFinite = true
    rw [kept]
    exact h.finite
  · show |exact (Float32.Model.pack f).unpack - q| ≤ 2 ^ place (Float32.Model.pack f).unpack / 2
    rw [kept]
    exact h.error

section

variable {x y : Float32} (finite : x.isFinite = true) (finite' : y.isFinite = true)
include finite finite'

theorem nearest_add (bound : |value x + value y| ≤ 2 ^ 126) :
    Nearest (x + y) (value x + value y) :=
  (rounded_add (canonical_unpack x) (canonical_unpack y) finite finite').nearest bound

theorem nearest_sub (bound : |value x - value y| ≤ 2 ^ 126) :
    Nearest (x - y) (value x - value y) := by
  have sum := rounded_add (canonical_unpack x) (canonical_unpack y).neg finite
    ((isFinite_neg _).trans finite')
  rw [← sub_eq_add, exact_neg, ← sub_eq_add_neg] at sum
  exact sum.nearest bound

theorem nearest_mul (bound : |value x * value y| ≤ 2 ^ 126) :
    Nearest (x * y) (value x * value y) :=
  (rounded_mul (canonical_unpack x) (canonical_unpack y) finite finite').nearest bound

theorem nearest_div (nonzero : value y ≠ 0) (bound : |value x / value y| ≤ 2 ^ 126) :
    Nearest (x / y) (value x / value y) :=
  (rounded_div (canonical_unpack x) (canonical_unpack y) finite finite' nonzero).nearest bound

end

theorem nearest_ofNat {n : Nat} (bound : n ≤ 2 ^ 126) : Nearest (ofNat n) n := by
  have whole := rounded_normalize n 0 .positive
  rw [zpow_zero, mul_one, Int.cast_natCast] at whole
  exact whole.nearest (by rw [Nat.abs_cast]; exact_mod_cast bound)

theorem nearest_ofInt16 (n : Int16) : Nearest (ofInt16 n) n.toInt := by
  have whole := rounded_normalize n.toInt 0 .positive
  rw [zpow_zero, mul_one] at whole
  refine whole.nearest ?_
  have low := n.le_toInt
  have high := n.toInt_lt
  rw [abs_le]
  constructor
  · exact_mod_cast (by omega : -2 ^ 126 ≤ n.toInt)
  · exact_mod_cast (by omega : n.toInt ≤ 2 ^ 126)

/-! ### A sign changes nothing else -/

lemma unpack_neg (x : Float32) : (-x).toModel.unpack = x.toModel.unpack.neg :=
  unpack_pack (canonical_unpack x).neg (fits_unpack x).neg

@[simp] lemma value_neg (x : Float32) : value (-x) = -value x := by
  rw [value, unpack_neg, exact_neg, value]

@[simp] lemma isFinite_float_neg (x : Float32) : (-x).isFinite = x.isFinite := by
  show (-x).toModel.unpack.isFinite = x.toModel.unpack.isFinite
  rw [unpack_neg, isFinite_neg]

/-! ### What nearness gives -/

/-- A finite number is a whole multiple of the unit in its last place, with 24 digits, unless that
is the least place. -/
lemma exists_mantissa {x : Float32} (finite : x.isFinite = true) :
    ∃ n : ℤ, value x = n * 2 ^ lastPlace x ∧ -149 ≤ lastPlace x ∧
      (2 ^ 23 ≤ |n| ∨ lastPlace x = -149) := by
  have canonical := canonical_unpack x
  change x.toModel.unpack.isFinite = true at finite
  unfold value lastPlace
  cases h : x.toModel.unpack with
  | notANumber => simp [h, UnpackedFloat.isFinite] at finite
  | infinity => simp [h, UnpackedFloat.isFinite] at finite
  | zero s => exact ⟨0, by simp [exact], le_rfl, .inr rfl⟩
  | finite s m e positive =>
    rw [h] at canonical
    obtain ⟨_, least, full⟩ := canonical
    refine ⟨s.apply m, ?_, least, full.imp_left fun digits => ?_⟩
    · rw [cast_apply, exact, place, mul_assoc]
    · cases s <;> simp [Sign.apply] <;> exact_mod_cast digits

namespace Nearest

variable {x : Float32} {q : ℚ}

/-- A rational of 23 digits that is not above `q` is not above what is nearest to `q`. -/
lemma le_of_short (h : Nearest x q) {j e : ℤ} (short : |j| ≤ 2 ^ 23) (least : -149 ≤ e)
    (le : j * 2 ^ e ≤ q) : j * 2 ^ e ≤ value x := by
  obtain ⟨n, value_eq, _, full⟩ := exists_mantissa h.finite
  have error := (abs_le.1 h.error).1
  rw [value_eq] at error ⊢
  generalize lastPlace x = u at *
  have unit : (0 : ℚ) < 2 ^ u := by positivity
  by_contra! above
  obtain fine | coarse := le_or_gt u e
  · -- Both are whole multiples of the unit, so that a whole unit lies between them.
    obtain ⟨k, rfl⟩ : ∃ k : ℕ, e = u + k := ⟨(e - u).toNat, by omega⟩
    have multiple : (j * 2 ^ (u + k : ℤ) : ℚ) = (j * 2 ^ k : ℤ) * 2 ^ u := by
      rw [zpow_add₀ two_ne_zero, zpow_natCast]
      push_cast
      ring
    rw [multiple] at le above
    have apart : n + 1 ≤ j * 2 ^ k := by exact_mod_cast lt_of_mul_lt_mul_right above unit.le
    have apart : (n + 1 : ℚ) ≤ (j * 2 ^ k : ℤ) := by exact_mod_cast apart
    nlinarith
  · -- The number has all digits, and so it is out of reach.
    have small : |(j * 2 ^ e : ℚ)| ≤ 2 ^ 22 * 2 ^ u := by
      have short : (|j| : ℚ) ≤ 2 ^ 23 := by exact_mod_cast short
      calc |(j * 2 ^ e : ℚ)| = |(j : ℚ)| * 2 ^ e := by
            rw [abs_mul, abs_of_pos (by positivity : (0 : ℚ) < 2 ^ e)]
        _ ≤ 2 ^ 23 * 2 ^ (u - 1) := by
          gcongr
          · norm_num
          · omega
        _ = 2 ^ 22 * 2 ^ u := by rw [zpow_sub₀ two_ne_zero]; ring
    have digits := full.resolve_right (by omega)
    obtain ⟨low, high⟩ := abs_le.1 small
    have below : n < 2 ^ 22 := by
      have : (n : ℚ) < 2 ^ 22 := lt_of_mul_lt_mul_right (above.trans_le high) unit.le
      exact_mod_cast this
    have negative : n ≤ -2 ^ 23 := by
      rcases le_abs.1 digits with h | h <;> omega
    have negative : (n : ℚ) ≤ -2 ^ 23 := by exact_mod_cast negative
    nlinarith

lemma neg (h : Nearest x q) : Nearest (-x) (-q) := by
  refine ⟨(isFinite_float_neg x).trans h.finite, ?_⟩
  have same : lastPlace (-x) = lastPlace x := by
    rw [lastPlace, unpack_neg, lastPlace]
    cases x.toModel.unpack <;> rfl
  rw [value_neg, same, ← neg_sub', abs_neg]
  exact h.error

/-- A rational of 23 digits that is not below `q` is not below what is nearest to `q`. -/
lemma ge_of_short (h : Nearest x q) {j e : ℤ} (short : |j| ≤ 2 ^ 23) (least : -149 ≤ e)
    (le : q ≤ j * 2 ^ e) : value x ≤ j * 2 ^ e := by
  have mirrored := h.neg.le_of_short (j := -j) (by rwa [abs_neg]) least
    (by push_cast; linarith)
  rw [value_neg] at mirrored
  push_cast at mirrored
  linarith

/-- A rational of 23 digits is met exactly. -/
lemma eq_of_short (h : Nearest x q) {j e : ℤ} (short : |j| ≤ 2 ^ 23) (least : -149 ≤ e)
    (same : q = j * 2 ^ e) : value x = q := by
  rw [same]
  exact le_antisymm (h.ge_of_short short least same.le) (h.le_of_short short least same.ge)

/-- The error is half a unit of the last of 24 digits, at most. -/
lemma relative (h : Nearest x q) (bound : 2 ^ (-126 : ℤ) ≤ |value x|) :
    |value x - q| ≤ |value x| / 2 ^ 24 := by
  obtain ⟨n, value_eq, _, full⟩ := exists_mantissa h.finite
  refine h.error.trans ?_
  have unit : (0 : ℚ) < 2 ^ lastPlace x := by positivity
  rw [div_le_div_iff₀ two_pos (by positivity)]
  obtain digits | least := full
  · have digits : (2 ^ 23 : ℚ) ≤ |(n : ℚ)| := by exact_mod_cast digits
    rw [value_eq, abs_mul, abs_of_pos unit]
    nlinarith
  · have digits : (2 : ℚ) ^ (-126 : ℤ) = 2 ^ 23 * 2 ^ (-149 : ℤ) := by
      rw [← zpow_natCast, ← zpow_add₀ two_ne_zero]
      norm_num
    rw [digits] at bound
    rw [least] at unit ⊢
    generalize (2 : ℚ) ^ (-149 : ℤ) = u at *
    linarith

end Nearest

/-! ### Whole numbers -/

/-- A finite number that is equal to an integer. -/
structure IsWhole (x : Float32) (n : ℤ) : Prop where
  finite : x.isFinite = true
  value_eq : value x = n

namespace IsWhole

variable {x c : Float32} {n : ℤ}

lemma lt_iff (whole : IsWhole x n) (finite : c.isFinite = true) : c < x ↔ value c < n := by
  rw [lt_iff_value finite whole.finite, whole.value_eq]

lemma gt_iff (whole : IsWhole x n) (finite : c.isFinite = true) : x < c ↔ n < value c := by
  rw [lt_iff_value whole.finite finite, whole.value_eq]

end IsWhole

lemma Nearest.isWhole {x : Float32} {n : ℤ} (h : Nearest x n) (short : |n| ≤ 2 ^ 23) :
    IsWhole x n :=
  ⟨h.finite, h.eq_of_short (e := 0) short (by norm_num) (by rw [zpow_zero, mul_one])⟩

lemma abs_le_of_short {n : ℤ} (short : |n| ≤ 2 ^ 23) : |(n : ℚ)| ≤ 2 ^ 126 := by
  have : |(n : ℚ)| ≤ 2 ^ 23 := by exact_mod_cast short
  exact this.trans (by norm_num)

lemma isWhole_ofNat {n : Nat} (short : n ≤ 2 ^ 23) : IsWhole (ofNat n) n :=
  Nearest.isWhole (by simpa using nearest_ofNat (n := n) (by omega)) (by simpa using short)

/-- A finite number that is equal to an integer within a bound. -/
structure IsWholeWithin (x : Float32) (n bound : ℤ) : Prop extends IsWhole x n where
  within : |n| ≤ bound

namespace IsWholeWithin

variable {x y : Float32} {m n a b : ℤ}

lemma neg (h : IsWholeWithin x m a) : IsWholeWithin (-x) (-m) a where
  finite := (isFinite_float_neg x).trans h.finite
  value_eq := by rw [value_neg, h.value_eq, Int.cast_neg]
  within := (abs_neg m).le.trans h.within

lemma add (left : IsWholeWithin x m a) (right : IsWholeWithin y n b) (short : a + b ≤ 2 ^ 23) :
    IsWholeWithin (x + y) (m + n) (a + b) := by
  have within : |m + n| ≤ a + b := (abs_add_le m n).trans (add_le_add left.within right.within)
  have sum := nearest_add left.finite right.finite
  rw [left.value_eq, right.value_eq, ← Int.cast_add] at sum
  exact ⟨(sum (abs_le_of_short (within.trans short))).isWhole (within.trans short), within⟩

lemma sub (left : IsWholeWithin x m a) (right : IsWholeWithin y n b) (short : a + b ≤ 2 ^ 23) :
    IsWholeWithin (x - y) (m - n) (a + b) := by
  have within : |m - n| ≤ a + b := (abs_sub m n).trans (add_le_add left.within right.within)
  have difference := nearest_sub left.finite right.finite
  rw [left.value_eq, right.value_eq, ← Int.cast_sub] at difference
  exact ⟨(difference (abs_le_of_short (within.trans short))).isWhole (within.trans short), within⟩

lemma mul (left : IsWholeWithin x m a) (right : IsWholeWithin y n b) (short : a * b ≤ 2 ^ 23) :
    IsWholeWithin (x * y) (m * n) (a * b) := by
  have within : |m * n| ≤ a * b := by
    rw [abs_mul]
    exact mul_le_mul left.within right.within (abs_nonneg n) ((abs_nonneg m).trans left.within)
  have product := nearest_mul left.finite right.finite
  rw [left.value_eq, right.value_eq, ← Int.cast_mul] at product
  exact ⟨(product (abs_le_of_short (within.trans short))).isWhole (within.trans short), within⟩

end IsWholeWithin

lemma isWholeWithin_ofInt16 (n : Int16) : IsWholeWithin (ofInt16 n) n.toInt (2 ^ 15) := by
  have low := n.le_toInt
  have high := n.toInt_lt
  have within : |n.toInt| ≤ 2 ^ 15 := abs_le.2 ⟨low, high.le⟩
  exact ⟨(nearest_ofInt16 n).isWhole (within.trans (by norm_num)), within⟩

end InertialSensor.Binary32
