import InertialSensor.Proofs.Binary32.Values
import InertialSensor.Proofs.Signal.Filters

/-!
# The memory of a filter

A filter remembers two numbers. Between its samples it can be designed anew and asked for its
cutoff (`Request`), and what it remembers decides together with its design what it will answer
(`serveAll`). Two things are shown of the answers to any list of requests. Samples that are not
finite leave no trace in them, and whatever the recursion does, the two numbers remain finite. And a
new design wipes out everything that came before it: a filter in use from then on answers like one
that was never used.

Comparisons of binary32 numbers are false on NaN, so "not above zero" and "at most zero" differ;
`Binary32.not_zero_lt_iff` says by how much.
-/

namespace InertialSensor

namespace LowPass

variable {f g : LowPass}

/-! ### Requests -/

/-- What a filter is asked. -/
inductive Request where
  /-- One sample to answer. -/
  | sample (x : Float32)
  /-- A new design. -/
  | redesign (rate cutoff : Float32)
  /-- The cutoff. -/
  | askCutoff

/-- A request that is not a sample, or a sample that is finite. -/
def Request.isProper : Request → Bool
  | .sample x => x.isFinite
  | .redesign .. | .askCutoff => true

/-- The answer to a request, none to a new design, and the filter afterwards. -/
def serve (f : LowPass) : Request → Option Float32 × LowPass
  | .sample x => (some (f.apply x).1, (f.apply x).2)
  | .redesign rate cutoff => (none, f.redesign rate cutoff)
  | .askCutoff => (some f.cutoff, f)

/-- The answers to a list of requests, and the filter afterwards. -/
def serveAll (f : LowPass) : List Request → List (Option Float32) × LowPass
  | [] => ([], f)
  | r :: rs =>
    let (answer, f) := f.serve r
    let (answers, f) := f.serveAll rs
    (answer :: answers, f)

@[simp] lemma serveAll_nil (f : LowPass) : f.serveAll [] = ([], f) := rfl

@[simp] lemma serveAll_cons (f : LowPass) (r : Request) (rs : List Request) :
    f.serveAll (r :: rs) =
      ((f.serve r).1 :: ((f.serve r).2.serveAll rs).1, ((f.serve r).2.serveAll rs).2) := rfl

/-! ### Samples that are not finite -/

/-- A sample that is not finite passes unchanged, and the filter forgets that it saw it. -/
lemma apply_of_not_finite {x : Float32} (h : x.isFinite = false) (f : LowPass) :
    f.apply x = (x, f) := by
  unfold LowPass.apply
  rw [h, Bool.and_false]
  rfl

lemma serve_of_not_proper {r : Request} (h : r.isProper = false) (f : LowPass) :
    (f.serve r).2 = f := by
  cases r with
  | sample x => exact congrArg Prod.snd (apply_of_not_finite h f)
  | redesign => cases h
  | askCutoff => cases h

/-- Each sample that is not finite is its own answer. -/
lemma serveAll_not_finite (f : LowPass) (rs : List Request) (i : Nat) (x : Float32)
    (asked : rs[i]? = some (.sample x)) (h : x.isFinite = false) :
    (f.serveAll rs).1[i]? = some (some x) := by
  induction rs generalizing f i with
  | nil => cases asked
  | cons r rs ih =>
    cases i with
    | zero =>
      obtain rfl : r = .sample x := by simpa using asked
      simp [serve, apply_of_not_finite h]
    | succ i => exact ih (f.serve r).2 i asked

/-- Without the samples that are not finite, the other requests have the answers that they have
among them, and the filter ends up the same. -/
lemma serveAll_proper (f : LowPass) (rs : List Request) :
    (rs.filter Request.isProper).zip (f.serveAll (rs.filter Request.isProper)).1 =
        (rs.zip (f.serveAll rs).1).filter (·.1.isProper) ∧
      (f.serveAll (rs.filter Request.isProper)).2 = (f.serveAll rs).2 := by
  induction rs generalizing f with
  | nil => exact ⟨rfl, rfl⟩
  | cons r rs ih =>
    obtain ⟨answers, after⟩ := ih (f.serve r).2
    cases proper : r.isProper with
    | true => simp [proper, answers, after]
    | false =>
      rw [serve_of_not_proper proper] at answers after
      simp [proper, serve_of_not_proper proper, answers, after]

/-! ### What is remembered -/

/-- The sum that a filter forms from a sample and the numbers remembered. -/
def feedback (f : LowPass) (x : Float32) : Float32 :=
  x - f.d1 * f.weights.a1 - f.d2 * f.weights.a2

/-- The sum is taken over where it is finite, the sample where it is not. -/
lemma inner_eq (f : LowPass) (x : Float32) :
    f.inner x = if (f.feedback x).isFinite then f.feedback x else x := rfl

lemma isFinite_inner {x : Float32} (h : x.isFinite = true) (f : LowPass) :
    (f.inner x).isFinite = true := by
  rw [inner_eq]
  split
  · assumption
  · exact h

/-- Both numbers remembered are finite. -/
def FiniteMemory (f : LowPass) : Prop := f.d1.isFinite = true ∧ f.d2.isFinite = true

lemma finiteMemory_redesign (rate cutoff : Float32) (f : LowPass) :
    (f.redesign rate cutoff).FiniteMemory := by
  have zero : (0 : Float32).isFinite = true := by decide +kernel
  unfold redesign
  split
  · exact ⟨zero, zero⟩
  · exact ⟨zero, zero⟩

lemma FiniteMemory.apply (h : f.FiniteMemory) (x : Float32) : (f.apply x).2.FiniteMemory := by
  unfold LowPass.apply
  split
  next used =>
    have finite : x.isFinite = true := (Bool.and_eq_true_iff.mp used).2
    exact ⟨isFinite_inner finite f, h.1⟩
  next => exact h

lemma FiniteMemory.serve (h : f.FiniteMemory) (r : Request) : (f.serve r).2.FiniteMemory := by
  cases r with
  | sample x => exact h.apply x
  | redesign rate cutoff => exact finiteMemory_redesign rate cutoff f
  | askCutoff => exact h

lemma FiniteMemory.serveAll (h : f.FiniteMemory) (rs : List Request) :
    (f.serveAll rs).2.FiniteMemory := by
  induction rs generalizing f with
  | nil => exact h
  | cons r rs ih => exact ih (h.serve r)

/-- A sample in use whose sum is not finite is remembered in place of the sum. -/
lemma remembered_of_overflow {x : Float32} (used : f.enabled = true) (finite : x.isFinite = true)
    (overflow : (f.feedback x).isFinite = false) :
    (f.apply x).2 = { f with d1 := x, d2 := f.d1 } := by
  unfold LowPass.apply
  rw [used, finite, inner_eq, overflow]
  rfl

/-- Samples that are not finite cannot spoil a filter. Take a fresh filter of any design, and any
list of samples, with new designs in between. Each sample that is not finite is answered by itself;
all else is answered, bit for bit, as by the same filter without these samples, and leaves the same
filter behind. Both numbers remembered are finite after the list, so in every state that a filter
can be in; and a finite sample whose sum with them is not finite is remembered in place of it. -/
theorem answers_ignore_nonfinite (rate cutoff : Float32) (rs : List Request) :
    let f := design rate cutoff
    let proper := rs.filter Request.isProper
    let after := (f.serveAll rs).2
    (∀ (i : Nat) (x : Float32), rs[i]? = some (.sample x) → x.isFinite = false →
      (f.serveAll rs).1[i]? = some (some x)) ∧
      (rs.zip (f.serveAll rs).1).filter (·.1.isProper) = proper.zip (f.serveAll proper).1 ∧
      after = (f.serveAll proper).2 ∧
      after.FiniteMemory ∧
      ∀ x : Float32, after.enabled = true → x.isFinite = true →
        (after.feedback x).isFinite = false →
          (after.apply x).2 = { after with d1 := x, d2 := after.d1 } := by
  intro f proper after
  obtain ⟨answers, same⟩ := serveAll_proper f rs
  exact ⟨serveAll_not_finite f rs, answers.symm, same.symm,
    (finiteMemory_redesign rate cutoff _).serveAll rs, fun x => remembered_of_overflow⟩

/-- A sample that is no number comes and goes; a large sample after a large sample has a sum that
is not finite. -/
theorem answers_ignore_nan_and_overflow :
    let f := design 1000 100
    let large : Float32 := 3e38
    let nan : Float32 := 0 / 0
    let rs := [.sample large, .sample nan]
    let after := (f.serveAll rs).2
    (f.serveAll rs).1[1]? = some (some nan) ∧ (after.feedback large).isFinite = false ∧
      after.FiniteMemory ∧ (after.apply large).2.d1 = large := by
  intro f large nan rs after
  obtain ⟨nonfinite, -, -, memory, overflow⟩ := answers_ignore_nonfinite 1000 100 rs
  have sum : (after.feedback large).isFinite = false := by decide +kernel
  have used : after.enabled = true := by decide +kernel
  refine ⟨nonfinite 1 nan rfl (by decide +kernel), sum, memory, ?_⟩
  rw [overflow large used (by decide +kernel) sum]

/-! ### New designs -/

/-- Filters that are alike cannot be told apart by a request, and stay alike. -/
lemma Alike.serve (alike : Alike f g) (r : Request) :
    (f.serve r).1 = (g.serve r).1 ∧ Alike (f.serve r).2 (g.serve r).2 := by
  cases r with
  | sample x =>
    obtain ⟨answer, after⟩ := alike.apply x
    exact ⟨congrArg some answer, after⟩
  | redesign rate cutoff => exact ⟨rfl, redesign_alike rate cutoff f g⟩
  | askCutoff => exact ⟨congrArg some alike.cutoff, alike⟩

/-- Nor by any list of requests. -/
lemma Alike.serveAll (alike : Alike f g) (rs : List Request) :
    (f.serveAll rs).1 = (g.serveAll rs).1 := by
  induction rs generalizing f g with
  | nil => rfl
  | cons r rs ih =>
    obtain ⟨answer, after⟩ := alike.serve r
    rw [serveAll_cons, serveAll_cons, answer, ih after]

/-- The rate and the cutoff of the last design. -/
def lastDesign (now : Float32 × Float32) : List Request → Float32 × Float32
  | [] => now
  | .redesign rate cutoff :: rs => lastDesign (rate, cutoff) rs
  | .sample _ :: rs | .askCutoff :: rs => lastDesign now rs

/-- A cutoff is not feasible if one of the two numbers is none or not above zero, or the cutoff not
below half the rate. -/
lemma not_feasible_iff (rate cutoff : Float32) :
    ¬ Feasible rate cutoff ↔
      rate.isNaN = true ∨ cutoff.isNaN = true ∨ rate ≤ 0 ∨ cutoff ≤ 0 ∨ rate / 2 ≤ cutoff := by
  have rate_iff := Binary32.not_zero_lt_iff rate
  have cutoff_iff := Binary32.not_zero_lt_iff cutoff
  unfold Feasible
  tauto

/-- A filter is switched on exactly if its design is feasible. -/
def DesignedFor (design : Float32 × Float32) (f : LowPass) : Prop :=
  f.cutoff = design.2 ∧ (f.enabled = true ↔ Feasible design.1 design.2)

lemma designedFor_redesign (rate cutoff : Float32) (f : LowPass) :
    DesignedFor (rate, cutoff) (f.redesign rate cutoff) := by
  unfold redesign
  split
  next feasible => exact ⟨rfl, iff_of_true rfl feasible⟩
  next unfeasible => exact ⟨rfl, iff_of_false nofun unfeasible⟩

lemma DesignedFor.serveAll {now : Float32 × Float32} (h : f.DesignedFor now) (rs : List Request) :
    (f.serveAll rs).2.DesignedFor (lastDesign now rs) := by
  induction rs generalizing f now with
  | nil => exact h
  | cons r rs ih =>
    cases r with
    | sample x =>
      have kept : (f.apply x).2.DesignedFor now := by
        rw [apply_eq]
        exact h
      exact ih kept
    | redesign rate cutoff => exact ih (designedFor_redesign rate cutoff f)
    | askCutoff => exact ih h

/-- A filter that is switched off passes on whatever it is given. -/
lemma run_of_not_enabled (h : f.enabled = false) (xs : List Float32) : f.run xs = (xs, f) := by
  have apply (x : Float32) : f.apply x = (x, f) := by
    unfold LowPass.apply
    rw [h]
    rfl
  induction xs with
  | nil => rfl
  | cons x xs ih => rw [run_cons, apply, ih]

/-- A filter that is designed anew is as good as a fresh one. Whatever state it was in, and whether
or not the new design and those that follow are feasible: it answers every list of samples, new
designs and questions for the cutoff like a fresh filter of the new design. Of the designs made by
then the last alone decides whether the filter is in use: it is out of use if the rate or the cutoff
is no number, or not above zero, or if the cutoff is not below half the rate, and then all samples
pass unchanged. -/
theorem redesign_answers_as_fresh (f : LowPass) (rate cutoff : Float32) (rs : List Request) :
    let renewed := f.redesign rate cutoff
    let after := (renewed.serveAll rs).2
    let latest := lastDesign (rate, cutoff) rs
    (renewed.serveAll rs).1 = ((design rate cutoff).serveAll rs).1 ∧
      (after.enabled = false ↔ latest.1.isNaN = true ∨ latest.2.isNaN = true ∨ latest.1 ≤ 0 ∨
        latest.2 ≤ 0 ∨ latest.1 / 2 ≤ latest.2) ∧
      (after.enabled = false → ∀ xs, after.run xs = (xs, after)) := by
  intro renewed after latest
  refine ⟨(redesign_alike_design rate cutoff f).serveAll rs, ?_, fun off => run_of_not_enabled off⟩
  have used := ((designedFor_redesign rate cutoff f).serveAll rs).2
  rw [← not_feasible_iff, ← used, Bool.not_eq_true]

end LowPass

end InertialSensor
