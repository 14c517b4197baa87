import InertialSensor.Proofs.Binary32.Rounding
import InertialSensor.Signal.Mounting

/-!
# Quarter turns are exact

A mounting stands for a product of three rotations about the axes (`Attitude.rotation`). Where all
three are by quarter turns, their sines and cosines are whole numbers, and so is everything that is
calculated on the way from a vector of whole numbers to its image: nothing is rounded, and the image
is the one under the exact rotation. What is known of that one is then known of the mounting. It
only swaps axes and changes signs, it keeps lengths and orientation, and rotations about one axis
add up to a full turn.
-/

namespace InertialSensor

open Binary32 Matrix

/-! ### Rotations -/

/-- The angle of a number of degrees. -/
noncomputable def angle (degrees : Nat) : ℝ := degrees * (Real.pi / 180)

/-- The rotation about an axis. -/
noncomputable def rotationAbout : Fin 3 → ℝ → Matrix (Fin 3) (Fin 3) ℝ
  | 0, θ => !![1, 0, 0; 0, Real.cos θ, -Real.sin θ; 0, Real.sin θ, Real.cos θ]
  | 1, θ => !![Real.cos θ, 0, Real.sin θ; 0, 1, 0; -Real.sin θ, 0, Real.cos θ]
  | 2, θ => !![Real.cos θ, -Real.sin θ, 0; Real.sin θ, Real.cos θ, 0; 0, 0, 1]

lemma det_rotationAbout (k : Fin 3) (θ : ℝ) : (rotationAbout k θ).det = 1 := by
  fin_cases k <;> simp [rotationAbout, det_fin_three, ← sq]

lemma rotationAbout_add (k : Fin 3) (θ φ : ℝ) :
    rotationAbout k (θ + φ) = rotationAbout k θ * rotationAbout k φ := by
  ext i j
  fin_cases k <;> fin_cases i <;> fin_cases j <;>
    simp [rotationAbout, mul_apply, Fin.sum_univ_three, Real.sin_add, Real.cos_add] <;> ring

lemma rotationAbout_zero (k : Fin 3) : rotationAbout k 0 = 1 := by
  ext i j
  fin_cases k <;> fin_cases i <;> fin_cases j <;> simp [rotationAbout]

lemma rotationAbout_pow (k : Fin 3) (θ : ℝ) (n : Nat) :
    rotationAbout k θ ^ n = rotationAbout k (n * θ) := by
  induction n with
  | zero => simp [rotationAbout_zero]
  | succ n ih => rw [pow_succ, ih, ← rotationAbout_add]; push_cast; ring_nf

lemma rotationAbout_two_pi (k : Fin 3) : rotationAbout k (2 * Real.pi) = 1 := by
  rw [← rotationAbout_zero k]
  fin_cases k <;> simp [rotationAbout]

/-- Full turns lead back to the start. -/
lemma rotationAbout_pow_eq_one (k : Fin 3) {d n : Nat} (full : 360 ∣ n * d) :
    rotationAbout k (angle d) ^ n = 1 := by
  obtain ⟨turns, full⟩ := full
  have whole : n * angle d = turns * (2 * Real.pi) := by
    have : (n * d : ℝ) = 360 * turns := by exact_mod_cast full
    rw [angle, ← mul_assoc, this]
    ring
  rw [rotationAbout_pow, whole, ← rotationAbout_pow, rotationAbout_two_pi, one_pow]

/-! ### Attitudes -/

namespace Attitude

/-- The rotation that an attitude stands for: a roll, then a pitch, then a yaw. -/
noncomputable def rotation (a : Attitude) : Matrix (Fin 3) (Fin 3) ℝ :=
  rotationAbout 2 (angle a.yaw) * rotationAbout 1 (angle a.pitch) * rotationAbout 0 (angle a.roll)

/-- One turn about one axis. -/
def about : Fin 3 → Nat → Attitude
  | 0, d => ⟨d, 0, 0⟩
  | 1, d => ⟨0, d, 0⟩
  | 2, d => ⟨0, 0, d⟩

/-- All three turns are by quarters of a full turn. -/
structure IsQuarter (a : Attitude) : Prop where
  roll : 90 ∣ a.roll
  pitch : 90 ∣ a.pitch
  yaw : 90 ∣ a.yaw

/-- All three turns are less than a full turn. -/
structure IsProper (a : Attitude) : Prop where
  roll : a.roll < 360
  pitch : a.pitch < 360
  yaw : a.yaw < 360

lemma det_rotation (a : Attitude) : a.rotation.det = 1 := by
  simp only [rotation, det_mul, det_rotationAbout, mul_one]

lemma rotation_about (k : Fin 3) (d : Nat) : (about k d).rotation = rotationAbout k (angle d) := by
  have none : angle 0 = 0 := by simp [angle]
  fin_cases k <;> simp [about, rotation, none, rotationAbout_zero]

end Attitude

/-! ### Signed permutations -/

/-- A matrix only swaps axes and changes signs. -/
def IsSignedPermutation (M : Matrix (Fin 3) (Fin 3) ℝ) : Prop :=
  ∃ (σ : Equiv.Perm (Fin 3)) (ε : Fin 3 → ℤˣ), ∀ v i, (M *ᵥ v) i = (ε i : ℤ) * v (σ i)

lemma IsSignedPermutation.mul {M N : Matrix (Fin 3) (Fin 3) ℝ} (left : IsSignedPermutation M)
    (right : IsSignedPermutation N) : IsSignedPermutation (M * N) := by
  obtain ⟨σ, ε, left⟩ := left
  obtain ⟨τ, δ, right⟩ := right
  refine ⟨τ * σ, fun i => ε i * δ (σ i), fun v i => ?_⟩
  rw [← mulVec_mulVec, left, right]
  push_cast
  rw [mul_assoc]
  rfl

/-- What only swaps and changes signs keeps lengths. -/
lemma IsSignedPermutation.length {M : Matrix (Fin 3) (Fin 3) ℝ} (h : IsSignedPermutation M)
    (v : Fin 3 → ℝ) : (M *ᵥ v) ⬝ᵥ (M *ᵥ v) = v ⬝ᵥ v := by
  obtain ⟨σ, ε, image⟩ := h
  calc (M *ᵥ v) ⬝ᵥ (M *ᵥ v) = ∑ i, v (σ i) * v (σ i) := by
        refine Finset.sum_congr rfl fun i _ => ?_
        have square : ((ε i : ℤ) * (ε i : ℤ) : ℝ) = 1 := by
          obtain h | h := Int.units_eq_one_or (ε i) <;> simp [h]
        rw [image]
        linear_combination (v (σ i) * v (σ i)) * square
    _ = v ⬝ᵥ v := Equiv.sum_comp σ fun i => v i * v i

/-- Sine and cosine are whole numbers, and one of them is zero. -/
def IsQuarterTurn (s c : ℤ) : Prop := (s = 0 ∧ ∃ u : ℤˣ, c = u) ∨ (c = 0 ∧ ∃ u : ℤˣ, s = u)

lemma isSignedPermutation_rotationAbout (k : Fin 3) {θ : ℝ} {s c : ℤ} (h : IsQuarterTurn s c)
    (sine : Real.sin θ = s) (cosine : Real.cos θ = c) :
    IsSignedPermutation (rotationAbout k θ) := by
  obtain ⟨rfl, u, rfl⟩ | ⟨rfl, u, rfl⟩ := h
  · refine ⟨1, fun i => if i = k then 1 else u, fun v i => ?_⟩
    fin_cases k <;> fin_cases i <;>
      simp [rotationAbout, mulVec, dotProduct, Fin.sum_univ_three, sine, cosine]
  · refine ⟨Equiv.swap (k + 1) (k + 2),
      fun i => if i = k then 1 else if i = k + 1 then -u else u, fun v i => ?_⟩
    fin_cases k <;> fin_cases i <;>
      simp [rotationAbout, mulVec, dotProduct, Fin.sum_univ_three, sine, cosine,
        Equiv.swap_apply_def]

/-- The turns by quarters have whole sines and cosines, and the ones computed are the same. -/
lemma quarter_turn {d : Nat} (once : d < 360) (quarter : 90 ∣ d) :
    ∃ s c : ℤ, IsQuarterTurn s c ∧ IsWholeWithin (Turn.ofDegrees d).sin s 1 ∧
      IsWholeWithin (Turn.ofDegrees d).cos c 1 ∧ Real.sin (angle d) = s ∧
      Real.cos (angle d) = c := by
  have zero : IsWholeWithin 0 0 1 := ⟨isWhole_ofNat (n := 0) (by norm_num), by norm_num⟩
  have one : IsWholeWithin 1 1 1 := ⟨isWhole_ofNat (n := 1) (by norm_num), by norm_num⟩
  have minus : IsWholeWithin (-1) (-1) 1 := one.neg
  obtain ⟨k, rfl⟩ := quarter
  have turns : angle (90 * k) = k * (Real.pi / 2) := by
    rw [angle]
    push_cast
    ring
  rw [turns]
  obtain rfl | rfl | rfl | rfl : k = 0 ∨ k = 1 ∨ k = 2 ∨ k = 3 := by omega
  · exact ⟨0, 1, .inl ⟨rfl, 1, rfl⟩, zero, one, by simp, by simp⟩
  · exact ⟨1, 0, .inr ⟨rfl, 1, rfl⟩, one, zero, by simp, by simp⟩
  · refine ⟨0, -1, .inl ⟨rfl, -1, rfl⟩, zero, minus, ?_, ?_⟩
    · rw [Nat.cast_ofNat, mul_div_cancel₀ _ two_ne_zero]
      simp
    · rw [Nat.cast_ofNat, mul_div_cancel₀ _ two_ne_zero]
      simp
  · have : ((3 : ℕ) : ℝ) * (Real.pi / 2) = Real.pi / 2 + Real.pi := by
      push_cast
      ring
    rw [this]
    exact ⟨-1, 0, .inr ⟨rfl, -1, rfl⟩, minus, zero, by simp [Real.sin_add], by simp [Real.cos_add]⟩

/-! ### Vectors -/

namespace Axes

/-- The three numbers of a vector, by their place. -/
def component {α : Type} (v : Axes α) : Fin 3 → α := ![v.x, v.y, v.z]

/-- The exact values of the three numbers. -/
noncomputable def values (v : Axes Float32) : Fin 3 → ℝ := fun i => (value (v.component i) : ℝ)

/-- The three numbers are integers that a sixteen-bit word has, or the negative of one. -/
def AreWords (v : Axes Float32) : Prop := ∀ i, ∃ n, IsWholeWithin (v.component i) n (2 ^ 15)

lemma areWords_ofInt16 (v : Axes Int16) : (v.map ofInt16).AreWords := fun i =>
  ⟨(v.component i).toInt, by
    have word := isWholeWithin_ofInt16 (v.component i)
    fin_cases i <;> exact word⟩

lemma values_ofInt16 (v : Axes Int16) (i : Fin 3) :
    (v.map ofInt16).values i = (v.component i).toInt := by
  have word := (isWholeWithin_ofInt16 (v.component i)).value_eq
  have same : (v.map ofInt16).component i = ofInt16 (v.component i) := by fin_cases i <;> rfl
  rw [values, same, word, Rat.cast_intCast]

end Axes

/-- The image under a rotation, written out. -/
lemma Attitude.rotation_mulVec (a : Attitude) (v : Fin 3 → ℝ) {sr cr sp cp sw cw : ℝ}
    (hsr : Real.sin (angle a.roll) = sr) (hcr : Real.cos (angle a.roll) = cr)
    (hsp : Real.sin (angle a.pitch) = sp) (hcp : Real.cos (angle a.pitch) = cp)
    (hsw : Real.sin (angle a.yaw) = sw) (hcw : Real.cos (angle a.yaw) = cw) :
    a.rotation *ᵥ v =
      ![cw * cp * v 0 + (cw * sp * sr - sw * cr) * v 1 + (cw * sp * cr + sw * sr) * v 2,
        sw * cp * v 0 + (sw * sp * sr + cw * cr) * v 1 + (sw * sp * cr - cw * sr) * v 2,
        -sp * v 0 + cp * sr * v 1 + cp * cr * v 2] := by
  rw [rotation, ← mulVec_mulVec, ← mulVec_mulVec]
  ext i
  fin_cases i <;>
    simp [rotationAbout, mulVec, dotProduct, Fin.sum_univ_three, hsr, hcr, hsp, hcp, hsw, hcw] <;>
    ring

/-- Nothing is rounded when a vector of words is turned by quarters. -/
lemma Attitude.turn_of_quarter {a : Attitude} (proper : a.IsProper) (quarter : a.IsQuarter)
    {v : Axes Float32} (words : v.AreWords) :
    IsSignedPermutation a.rotation ∧ (∀ i, ((a.turn v).component i).isFinite = true) ∧
      (a.turn v).values = a.rotation *ᵥ v.values := by
  obtain ⟨sr, cr, ur, hsr, hcr, hsr', hcr'⟩ := quarter_turn proper.roll quarter.roll
  obtain ⟨sp, cp, up, hsp, hcp, hsp', hcp'⟩ := quarter_turn proper.pitch quarter.pitch
  obtain ⟨sw, cw, uw, hsw, hcw, hsw', hcw'⟩ := quarter_turn proper.yaw quarter.yaw
  obtain ⟨x, hx⟩ := words 0
  obtain ⟨y, hy⟩ := words 1
  obtain ⟨z, hz⟩ := words 2
  have first := (((hcw.mul hcp (by norm_num)).mul hx (by norm_num)).add
    ((((hcw.mul hsp (by norm_num)).mul hsr (by norm_num)).sub
      (hsw.mul hcr (by norm_num)) (by norm_num)).mul hy (by norm_num)) (by norm_num)).add
    ((((hcw.mul hsp (by norm_num)).mul hcr (by norm_num)).add
      (hsw.mul hsr (by norm_num)) (by norm_num)).mul hz (by norm_num)) (by norm_num)
  have second := (((hsw.mul hcp (by norm_num)).mul hx (by norm_num)).add
    ((((hsw.mul hsp (by norm_num)).mul hsr (by norm_num)).add
      (hcw.mul hcr (by norm_num)) (by norm_num)).mul hy (by norm_num)) (by norm_num)).add
    ((((hsw.mul hsp (by norm_num)).mul hcr (by norm_num)).sub
      (hcw.mul hsr (by norm_num)) (by norm_num)).mul hz (by norm_num)) (by norm_num)
  have third := ((hsp.neg.mul hx (by norm_num)).add
    ((hcp.mul hsr (by norm_num)).mul hy (by norm_num)) (by norm_num)).add
    ((hcp.mul hcr (by norm_num)).mul hz (by norm_num)) (by norm_num)
  have values : v.values 0 = x ∧ v.values 1 = y ∧ v.values 2 = z := by
    simp only [Axes.values, hx.value_eq, hy.value_eq, hz.value_eq, Rat.cast_intCast, and_self]
  refine ⟨?_, ?_, ?_⟩
  · rw [rotation]
    exact ((isSignedPermutation_rotationAbout 2 uw hsw' hcw').mul
      (isSignedPermutation_rotationAbout 1 up hsp' hcp')).mul
        (isSignedPermutation_rotationAbout 0 ur hsr' hcr')
  · intro i
    fin_cases i
    · exact first.finite
    · exact second.finite
    · exact third.finite
  · rw [rotation_mulVec a _ hsr' hcr' hsp' hcp' hsw' hcw', values.1, values.2.1, values.2.2]
    ext i
    fin_cases i
    · refine (congrArg _ first.value_eq).trans ?_
      push_cast
      rfl
    · refine (congrArg _ second.value_eq).trans ?_
      push_cast
      rfl
    · refine (congrArg _ third.value_eq).trans ?_
      push_cast
      rfl

/-- Words are words again when they are swapped and change their signs. -/
lemma Axes.areWords_of_image {M : Matrix (Fin 3) (Fin 3) ℝ} (h : IsSignedPermutation M)
    {v w : Axes Float32} (words : v.AreWords) (finite : ∀ i, (w.component i).isFinite = true)
    (image : w.values = M *ᵥ v.values) : w.AreWords := by
  obtain ⟨σ, ε, h⟩ := h
  intro i
  obtain ⟨n, word⟩ := words (σ i)
  have same : (value (w.component i) : ℝ) = (ε i * n : ℤ) := by
    have := congrFun image i
    rw [h, values, values, word.value_eq] at this
    rw [this]
    push_cast
    rfl
  refine ⟨ε i * n, ⟨finite i, by exact_mod_cast same⟩, ?_⟩
  have unit : |(ε i : ℤ)| = 1 := by obtain h | h := Int.units_eq_one_or (ε i) <;> simp [h]
  rw [abs_mul, unit, one_mul]
  exact word.within

namespace Mounting

variable {m : Mounting}

lemma isProper_attitude (m : Mounting) : m.attitude.IsProper := by
  cases m <;> exact ⟨by decide, by decide, by decide⟩

/-- A mounting by quarter turns applies the exact rotation to a vector of words. -/
lemma apply_of_quarter (quarter : m.attitude.IsQuarter) {v : Axes Float32} (words : v.AreWords) :
    (m.apply v).AreWords ∧ (m.apply v).values = m.attitude.rotation *ᵥ v.values := by
  obtain ⟨permutation, finite, image⟩ :=
    m.attitude.turn_of_quarter m.isProper_attitude quarter words
  by_cases plain : m = none
  · subst plain
    have still : (Attitude.about 0 0).rotation = 1 := by
      rw [Attitude.rotation_about, angle, Nat.cast_zero, zero_mul, rotationAbout_zero]
    have still : none.attitude.rotation = 1 := still
    rw [still, one_mulVec]
    exact ⟨words, rfl⟩
  · have turned : m.apply v = m.attitude.turn v := by
      cases m <;> first | rfl | exact absurd rfl plain
    rw [turned]
    exact ⟨Axes.areWords_of_image permutation words finite image, image⟩

/-- Applied several times, it applies the power of the rotation. -/
lemma iterate_apply_of_quarter (quarter : m.attitude.IsQuarter) {v : Axes Float32}
    (words : v.AreWords) (n : Nat) :
    (m.apply^[n] v).AreWords ∧ (m.apply^[n] v).values = (m.attitude.rotation ^ n) *ᵥ v.values := by
  induction n with
  | zero => exact ⟨words, by simp⟩
  | succ n ih =>
    obtain ⟨before, power⟩ := ih
    obtain ⟨after, image⟩ := apply_of_quarter quarter before
    rw [Function.iterate_succ_apply', pow_succ', ← mulVec_mulVec, ← power]
    exact ⟨after, image⟩

/-- A mounting whose roll, pitch and yaw are multiples of a quarter turn is exact on vectors of
sixteen-bit integers. The image is the one under `Rz(yaw) · Ry(pitch) · Rx(roll)`, without any
rounding. That rotation only swaps axes and changes signs, with orientation and lengths kept; and a
mounting that turns about one axis alone gives back the vector when it was applied until the turn
was full: twice for a half turn, and four times for a quarter turn. -/
theorem apply_exact (m : Mounting)
    (quarter : 90 ∣ m.attitude.roll ∧ 90 ∣ m.attitude.pitch ∧ 90 ∣ m.attitude.yaw) :
    IsSignedPermutation m.attitude.rotation ∧ m.attitude.rotation.det = 1 ∧
      ∀ v : Axes Float32, v.AreWords →
        (m.apply v).AreWords ∧ (m.apply v).values = m.attitude.rotation *ᵥ v.values ∧
        (m.apply v).values ⬝ᵥ (m.apply v).values = v.values ⬝ᵥ v.values ∧
        ∀ k d n, m.attitude = .about k d → 360 ∣ n * d → (m.apply^[n] v).values = v.values := by
  have quarter : m.attitude.IsQuarter := ⟨quarter.1, quarter.2.1, quarter.2.2⟩
  have permutation : IsSignedPermutation m.attitude.rotation :=
    (m.attitude.turn_of_quarter m.isProper_attitude quarter
      (Axes.areWords_ofInt16 (.replicate 0))).1
  refine ⟨permutation, m.attitude.det_rotation, fun v words => ?_⟩
  obtain ⟨after, image⟩ := apply_of_quarter quarter words
  refine ⟨after, image, ?_, fun k d n single full => ?_⟩
  · rw [image]
    exact permutation.length v.values
  · rw [(iterate_apply_of_quarter quarter words n).2, single, Attitude.rotation_about,
      rotationAbout_pow_eq_one k full, one_mulVec]

/-- A roll by 270 degrees and a yaw by 90 of a vector with the lowest word in it. -/
theorem apply_exact_roll270Yaw90 :
    let v := (Axes.mk (-32768) 5 7 : Axes Int16).map ofInt16
    (90 ∣ roll270Yaw90.attitude.roll ∧ 90 ∣ roll270Yaw90.attitude.pitch ∧
      90 ∣ roll270Yaw90.attitude.yaw) ∧
      v.AreWords ∧ v.values = ![-32768, 5, 7] ∧
      (roll270Yaw90.apply v).values = roll270Yaw90.attitude.rotation *ᵥ v.values := by
  intro v
  have words : v.AreWords := Axes.areWords_ofInt16 _
  have quarter : 90 ∣ roll270Yaw90.attitude.roll ∧ 90 ∣ roll270Yaw90.attitude.pitch ∧
      90 ∣ roll270Yaw90.attitude.yaw := by decide
  refine ⟨quarter, words, ?_, ((apply_exact roll270Yaw90 quarter).2.2 v words).2.1⟩
  ext i
  rw [Axes.values_ofInt16]
  fin_cases i <;> simp [Axes.component]

end Mounting

end InertialSensor
