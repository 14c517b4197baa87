import InertialSensor.Proofs.Binary32.Rounding

/-!
# The divider nearest to a rate

The divider for a rate is computed with binary32 numbers: the rate is rounded to one, so is the
quotient, and that is rounded to a whole number. Still the divider is the one nearest to the exact
quotient. Rounding never goes past a number of few digits, and a quotient that is below an exact
half is so by more than what rounding can add.
-/

namespace InertialSensor.OutputRate

open Binary32

/-- The quotient whose rounding is the divider. -/
def quotient (hz : Nat) : Float32 := Binary32.ofNat baseRate / Binary32.ofNat hz

lemma divider_forHertz {hz : Nat} (some : hz ≠ 0) :
    (forHertz hz).divider = max 1 (min (toNearestNat (quotient hz)) maxDivider) := by
  rw [forHertz, if_neg some]
  rfl

variable {hz : Nat}

/-- The rate as a binary32 number. -/
lemma nearest_rate (some : 0 < hz) (word : hz < 2 ^ 32) :
    Nearest (Binary32.ofNat hz) hz ∧ 1 ≤ value (Binary32.ofNat hz) := by
  have rate : Nearest (Binary32.ofNat hz) hz := nearest_ofNat (by omega)
  have one := rate.le_of_short (j := 1) (e := 0) (by norm_num) (by norm_num)
    (by norm_num; exact_mod_cast some)
  norm_num at one
  exact ⟨rate, one⟩

lemma nearest_quotient (some : 0 < hz) (word : hz < 2 ^ 32) :
    Nearest (quotient hz) (1000 / value (Binary32.ofNat hz)) := by
  have base : IsWhole (Binary32.ofNat 1000) 1000 := isWhole_ofNat (by norm_num)
  obtain ⟨rate, one⟩ := nearest_rate some word
  have result := nearest_div base.finite rate.finite (by linarith)
  rw [base.value_eq] at result
  refine result ?_
  rw [abs_of_pos (by positivity), div_le_iff₀ (by linarith)]
  norm_num
  linarith

/-- A rate of at most 23 digits is a binary32 number itself, so that only the quotient is
rounded. -/
lemma nearest_quotient_of_low (some : 0 < hz) (low : hz ≤ 2 ^ 23) :
    Nearest (quotient hz) (1000 / hz) := by
  have result := nearest_quotient some (low.trans_lt (by norm_num))
  have same : value (Binary32.ofNat hz) = hz := (isWhole_ofNat low).value_eq
  rwa [same] at result

/-- Rounding does not take the quotient up to an exact half. -/
lemma half_le_of_quotient (some : 0 < hz) (low : hz ≤ 2 ^ 23) {n : Nat}
    (reached : (n + 1 / 2 : ℚ) ≤ value (quotient hz)) : (n + 1 / 2 : ℚ) ≤ 1000 / hz := by
  have result := nearest_quotient_of_low some low
  have positive : (0 : ℚ) < hz := by exact_mod_cast some
  have above : (0 : ℚ) < value (quotient hz) := lt_of_lt_of_le (by positivity) reached
  have normal : 2 ^ (-126 : ℤ) ≤ |value (quotient hz)| := by
    have : (0 : ℚ) ≤ n := by positivity
    rw [abs_of_pos above]
    refine le_trans ?_ reached
    norm_num
    linarith
  have error := (abs_le.1 (result.relative normal)).2
  rw [abs_of_pos above] at error
  by_contra! below
  -- Twice the quotient is then below an odd number by one part in 2001 at least.
  have gap : 2001 ≤ (2 * n + 1) * hz := by
    rw [div_lt_iff₀ positive] at below
    have : (2000 : ℚ) < (2 * n + 1) * hz := by linarith
    exact_mod_cast this
  have gap : (2001 : ℚ) ≤ (2 * n + 1) * hz := by exact_mod_cast gap
  have close : value (quotient hz) * (1 - 1 / 2 ^ 24) * hz ≤ 1000 := by
    rw [← le_div_iff₀ positive]
    linarith
  nlinarith

/-- An exact half is a number of few digits, and the quotient is not rounded past it. -/
lemma half_le_quotient (some : 0 < hz) (low : hz ≤ 2 ^ 23) {n : Nat} (short : n < 2 ^ 22)
    (reached : (n + 1 / 2 : ℚ) ≤ 1000 / hz) : (n + 1 / 2 : ℚ) ≤ value (quotient hz) := by
  have half : ((2 * n + 1 : ℤ) : ℚ) * 2 ^ (-1 : ℤ) = n + 1 / 2 := by
    push_cast
    ring
  rw [← half]
  refine (nearest_quotient_of_low some low).le_of_short ?_ (by norm_num) (half ▸ reached)
  rw [abs_of_nonneg (by positivity)]
  omega

/-- For all other rates both quotients are far below the first half. -/
lemma quotients_of_high (high : 2 ^ 23 < hz) (word : hz < 2 ^ 32) :
    value (quotient hz) < 1 / 2 ∧ (1000 / hz : ℚ) < 1 / 2 := by
  have some : 0 < hz := (Nat.zero_le _).trans_lt high
  have far : (2 ^ 23 : ℚ) ≤ value (Binary32.ofNat hz) := by
    have := (nearest_rate some word).1.le_of_short (j := 1) (e := 23) (by norm_num) (by norm_num)
      (by norm_num; exact_mod_cast high.le)
    norm_num at this ⊢
    exact this
  have small : value (quotient hz) ≤ 1 / 4 := by
    have := (nearest_quotient some word).ge_of_short (j := 1) (e := -2) (by norm_num) (by norm_num)
      (by
        rw [div_le_iff₀ (by linarith)]
        norm_num
        linarith)
    norm_num at this ⊢
    exact this
  have rate : (2 ^ 23 : ℚ) < hz := by exact_mod_cast high
  refine ⟨by linarith, ?_⟩
  rw [div_lt_iff₀ (by linarith)]
  linarith

/-- The quotient reaches an exact half where the exact quotient does. -/
lemma half_le_quotient_iff (some : 0 < hz) (word : hz < 2 ^ 32) {n : Nat} (short : n < 2 ^ 22) :
    (n + 1 / 2 : ℚ) ≤ value (quotient hz) ↔ (n + 1 / 2 : ℚ) ≤ 1000 / hz := by
  obtain low | high := le_or_gt hz (2 ^ 23)
  · exact ⟨half_le_of_quotient some low, half_le_quotient some low short⟩
  · obtain ⟨computed, exact⟩ := quotients_of_high high word
    have nonneg : (0 : ℚ) ≤ n := n.cast_nonneg
    constructor <;> intro reached <;> linarith

lemma lt_floor_add_half_iff {q : ℚ} (n : Nat) : n < ⌊q + 1 / 2⌋₊ ↔ (n + 1 / 2 : ℚ) ≤ q := by
  rw [← Nat.add_one_le_iff, Nat.le_floor_iff' n.succ_ne_zero]
  push_cast
  constructor <;> intro h <;> linarith

/-- The divider is the whole number nearest to the exact quotient, within its range. -/
lemma divider_eq_round (some : 0 < hz) (word : hz < 2 ^ 32) :
    ((forHertz hz).divider : ℤ) = max 1 (min (round (1000 / hz : ℚ)) 200) := by
  have nonneg : 0 ≤ value (quotient hz) := by
    have := (nearest_quotient some word).le_of_short (j := 0) (e := 0) (by norm_num) (by norm_num)
      (by
        have := (nearest_rate some word).2
        norm_num
        positivity)
    norm_num at this
    exact this
  have rounded : (⌊(1000 / hz : ℚ) + 1 / 2⌋₊ : ℤ) = round (1000 / hz : ℚ) := by
    rw [round_eq, Int.natCast_floor_eq_floor (by positivity)]
  have thresholds : ∀ n < 2 ^ 22, n < ⌊value (quotient hz) + 1 / 2⌋₊ ↔
      n < ⌊(1000 / hz : ℚ) + 1 / 2⌋₊ := fun n short => by
    rw [lt_floor_add_half_iff, lt_floor_add_half_iff, half_le_quotient_iff some word short]
  rw [divider_forHertz some.ne', toNearestNat_eq nonneg, ← rounded, maxDivider]
  generalize ⌊value (quotient hz) + 1 / 2⌋₊ = computed at thresholds ⊢
  generalize ⌊(1000 / hz : ℚ) + 1 / 2⌋₊ = wanted at thresholds ⊢
  have same : min computed 200 = min wanted 200 := by
    have low := thresholds (min computed 200)
    have high := thresholds (min wanted 200)
    omega
  rw [same]
  push_cast
  rfl

/-! ### What follows from it -/

lemma divider_mem (hz : Nat) : 1 ≤ (forHertz hz).divider ∧ (forHertz hz).divider ≤ 200 :=
  ⟨le_max_left .., max_le (by decide) (min_le_right ..)⟩

lemma hertz_mem {r : OutputRate} (h : 1 ≤ r.divider ∧ r.divider ≤ 200) :
    5 ≤ r.hertz ∧ r.hertz ≤ 1000 := by
  rw [hertz, baseRate, Nat.le_div_iff_mul_le (by omega)]
  exact ⟨by omega, Nat.div_le_self ..⟩

lemma divider_antitone {hz hz' : Nat} (some : 0 < hz) (le : hz ≤ hz') (word : hz' < 2 ^ 32) :
    (forHertz hz').divider ≤ (forHertz hz).divider := by
  have less : round (1000 / hz' : ℚ) ≤ round (1000 / hz : ℚ) := by
    rw [round_eq, round_eq]
    gcongr
  have low := divider_eq_round some (le.trans_lt word)
  have high := divider_eq_round (some.trans_le le) word
  omega

/-- A rate that the divider makes exactly is kept by asking for it. -/
lemma forHertz_hertz {r : OutputRate} (range : 1 ≤ r.divider ∧ r.divider ≤ 200)
    (divides : r.divider ∣ 1000) : forHertz r.hertz = r := by
  obtain ⟨low, high⟩ := hertz_mem range
  have exact : (1000 / r.hertz : ℚ) = r.divider := by
    have : r.divider * r.hertz = 1000 := Nat.mul_div_cancel' divides
    have : (r.divider * r.hertz : ℚ) = 1000 := by exact_mod_cast this
    rw [div_eq_iff (by positivity), this]
  have divider : ((forHertz r.hertz).divider : ℤ) =
      max 1 (min (round (1000 / r.hertz : ℚ)) 200) := divider_eq_round (by omega) (by omega)
  rw [exact, round_natCast] at divider
  have same : (forHertz r.hertz).divider = r.divider := by omega
  cases h : forHertz r.hertz
  cases r
  simp_all

/-- The output rate for a request in hertz is that of the divider nearest to the exact quotient of
the base rate and the request, an exact half going up, within 1 and 200; a request for zero counts
as one for the base rate. A higher request never has a larger divider. The rate in force is the
exact quotient of base rate and divider, rounded down, and lies within 5 and 1000 hertz; the
register holds the divider less one; and a rate that its divider makes exactly is kept by asking
for it. -/
theorem forHertz_exact (hz : UInt32) :
    (hz ≠ 0 → ((forHertz hz.toNat).divider : ℤ) =
        max 1 (min (round (1000 / hz.toNat : ℚ)) 200)) ∧
      (hz = 0 → forHertz hz.toNat = forHertz 1000) ∧
      (∀ higher : UInt32, hz ≠ 0 → hz ≤ higher →
        (forHertz higher.toNat).divider ≤ (forHertz hz.toNat).divider) ∧
      (1 ≤ (forHertz hz.toNat).divider ∧ (forHertz hz.toNat).divider ≤ 200) ∧
      (forHertz hz.toNat).hertz = ⌊(1000 / (forHertz hz.toNat).divider : ℚ)⌋₊ ∧
      (5 ≤ (forHertz hz.toNat).hertz ∧ (forHertz hz.toNat).hertz ≤ 1000) ∧
      ((forHertz hz.toNat).registerValue.toNat : ℤ) = (forHertz hz.toNat).divider - 1 ∧
      ∀ s : OutputRate, 1 ≤ s.divider ∧ s.divider ≤ 200 → s.divider ∣ 1000 →
        forHertz (1000 / s.divider) = s := by
  have range := divider_mem hz.toNat
  have positive : hz ≠ 0 → 0 < hz.toNat := fun some =>
    Nat.pos_of_ne_zero fun h => some (UInt32.toNat_inj.1 h)
  refine ⟨fun some => divider_eq_round (positive some) hz.toNat_lt, ?_, ?_, range, ?_,
    hertz_mem range, ?_, fun s within divides => forHertz_hertz within divides⟩
  · rintro rfl
    rfl
  · exact fun higher some le => divider_antitone (positive some) (UInt32.le_iff_toNat_le.1 le)
      higher.toNat_lt
  · rw [hertz, baseRate, ← Nat.floor_div_eq_div (K := ℚ)]
    rfl
  · rw [registerValue, Nat.toUInt8_eq, UInt8.toNat_ofNat_of_lt' (by simp [UInt8.size]; omega)]
    omega

end InertialSensor.OutputRate
