import InertialSensor.Proofs.Signal.Filters

/-!
# Windows partition the samples

The samples that a window of integrated change takes, cut where it closes: each closed window
extends from the sample at which it opened to the first one that is an interval or more later, and
the next one opens there (`Tiling`). `Since` says what the state of the integration has to do with
the samples since the last opening; it is kept by every sample (`Since.put`), so that the answers to
a list of samples are read off its tiling (`Since.run`).
-/

namespace InertialSensor.DeltaWindow

/-- A sample and the time at which it was taken. -/
abbrev Timed := UInt64 × Axes Float32

/-! ### Pairs of samples -/

/-- The pairs of consecutive samples. -/
def pairs (samples : List Timed) : List (Timed × Timed) := samples.zip samples.tail

/-- The trapezoids of consecutive samples, summed up from zero and from left to right. -/
def trapezoids (samples : List Timed) : Axes Float32 :=
  (pairs samples).foldl
    (fun sum pair =>
      sum.zipWith (· + ·) (pair.1.2.zipWith
        (fun before after => (after + before) * ((pair.2.1 - pair.1.1).toFloat32 * 1e-6) * 0.5)
        pair.2.2))
    (.replicate 0)

/-- One more sample makes one more pair, with the last sample so far. -/
lemma pairs_concat (opening : Timed) (past : List Timed) (s : Timed) :
    pairs (opening :: (past ++ [s])) = pairs (opening :: past) ++ [(past.getLastD opening, s)] := by
  induction past generalizing opening with
  | nil => rfl
  | cons next past ih =>
    have more := ih next
    simp only [pairs, List.cons_append, List.tail_cons, List.zip_cons_cons,
      List.getLastD_cons] at more ⊢
    rw [more]

/-- Two stretches that share a sample have the pairs of both. -/
lemma pairs_append (past : List Timed) (shared : Timed) (later : List Timed) :
    pairs (past ++ shared :: later) = pairs (past ++ [shared]) ++ pairs (shared :: later) := by
  induction past with
  | nil => simp [pairs]
  | cons first past ih =>
    cases past with
    | nil => simp [pairs]
    | cons second past =>
      simp only [pairs, List.cons_append, List.tail_cons, List.zip_cons_cons] at ih ⊢
      rw [ih]

/-! ### Tilings -/

/-- A window that closed: the sample at which it opened, those that it took without closing, the one
that closed it, and what it answered. -/
structure Closed where
  opening : Timed
  inner : List Timed
  closing : Timed
  delta : Delta

namespace Closed

/-- The samples over which the window extends. -/
def samples (c : Closed) : List Timed := c.opening :: (c.inner ++ [c.closing])

/-- The answers to the samples after the opening one. -/
def answers (c : Closed) : List (Option Delta) := c.inner.map (fun _ => none) ++ [some c.delta]

end Closed

/-- The samples after an opening one are cut into windows that closed, each at the first sample an
interval or more after the one at which it opened, and a remainder after the last opening. -/
inductive Tiling (interval : UInt64) :
    Timed → List Timed → List Closed → Timed → List Timed → Prop where
  | remainder {opening : Timed} {rest : List Timed}
      (short : ∀ s ∈ rest, s.1 - opening.1 < interval) :
      Tiling interval opening rest [] opening rest
  | closes {rest : List Timed} {windows : List Closed} {last : Timed} {left : List Timed}
      (c : Closed) (short : ∀ s ∈ c.inner, s.1 - c.opening.1 < interval)
      (due : interval ≤ c.closing.1 - c.opening.1)
      (later : Tiling interval c.closing rest windows last left) :
      Tiling interval c.opening (c.inner ++ c.closing :: rest) (c :: windows) last left

namespace Tiling

variable {interval : UInt64} {opening last : Timed} {samples left : List Timed}
  {windows : List Closed}

/-- The last sample of all is the last one of the remainder. -/
lemma getLastD_eq (h : Tiling interval opening samples windows last left) :
    left.getLastD last = samples.getLastD opening := by
  induction h with
  | remainder => rfl
  | closes c short due later ih =>
    rw [ih]
    simp [List.getLastD_eq_getLast?, List.getLast?_cons]

/-- Each pair of consecutive samples is in one window, or in the remainder. -/
lemma pairs_eq (h : Tiling interval opening samples windows last left) :
    pairs (opening :: samples) =
      windows.flatMap (fun c => pairs c.samples) ++ pairs (last :: left) := by
  induction h with
  | remainder => rfl
  | closes c short due later ih =>
    rw [List.flatMap_cons, List.append_assoc, ← ih]
    exact pairs_append (c.opening :: c.inner) c.closing _

/-- The windows lie end to end. -/
lemma sum_lengths (h : Tiling interval opening samples windows last left)
    (ordered : ∀ c ∈ windows, c.opening.1 ≤ c.closing.1) :
    opening.1.toNat + (windows.map fun c => c.closing.1.toNat - c.opening.1.toNat).sum =
      last.1.toNat := by
  induction h with
  | remainder => rfl
  | closes c short due later ih =>
    have first := UInt64.le_iff_toNat_le.mp (ordered c List.mem_cons_self)
    have others := ih fun c' member => ordered c' (List.mem_cons_of_mem c member)
    rw [List.map_cons, List.sum_cons]
    omega

end Tiling

/-! ### The state of the integration -/

/-- The window opened at a sample and has taken these ones since, none of them earlier. Its sum is
that of the trapezoids, if coning is not corrected. -/
structure Since (w : DeltaWindow) (opening : Timed) (past : List Timed) : Prop where
  started : 0 < opening.1
  order : opening.1 ≤ (past.getLastD opening).1
  openedAt : w.openedAt = opening.1
  last : (w.lastTime, w.lastValue) = past.getLastD opening
  sum : w.coning = false → w.sum = trapezoids (opening :: past)

variable {w : DeltaWindow} {opening : Timed} {past : List Timed}

lemma elapsed_of_le {earlier later : UInt64} (h : earlier ≤ later) :
    elapsed earlier later = later - earlier := if_pos h

lemma settings_put (w : DeltaWindow) (time : UInt64) (value : Axes Float32) :
    (w.put time value).2.interval = w.interval ∧ (w.put time value).2.coning = w.coning := by
  simp only [put]
  split
  · exact ⟨rfl, rfl⟩
  · split
    · rw [extend_eq]
      exact ⟨rfl, rfl⟩
    · rw [extend_eq]
      exact ⟨rfl, rfl⟩

namespace Since

lemma not_first (h : Since w opening past) : w.lastTime ≠ 0 := by
  have last : w.lastTime = (past.getLastD opening).1 := congrArg Prod.fst h.last
  have started := UInt64.lt_iff_toNat_lt.mp h.started
  have order := UInt64.le_iff_toNat_le.mp h.order
  rw [last]
  intro zero
  rw [zero] at order
  simp only [UInt64.toNat_zero] at started order
  omega

lemma extend (h : Since w opening past) {s : Timed} (later : (past.getLastD opening).1 ≤ s.1) :
    Since (w.extend s.1 s.2) opening (past ++ [s]) := by
  have lastTime : w.lastTime = (past.getLastD opening).1 := congrArg Prod.fst h.last
  have lastValue : w.lastValue = (past.getLastD opening).2 := congrArg Prod.snd h.last
  have newest : (past ++ [s]).getLastD opening = s := List.getLastD_concat
  rw [extend_eq]
  constructor
  · exact h.started
  · rw [newest]
    exact UInt64.le_trans h.order later
  · exact h.openedAt
  · rw [newest]
  · intro plain
    simp only at plain ⊢
    rw [trapezoids, pairs_concat, List.foldl_append, ← trapezoids, ← h.sum plain, step, lastTime,
      lastValue, elapsed_of_le later]
    rfl

/-- The next window opens at the sample at which the last one closed. -/
lemma reopen (h : Since w opening past) : Since w.reopen (past.getLastD opening) [] where
  started := UInt64.lt_of_lt_of_le h.started h.order
  order := UInt64.le_refl _
  openedAt := congrArg Prod.fst h.last
  last := h.last
  sum _ := rfl

/-- A window that is closed answers with the time since its opening, and if coning is not corrected
with the sum of its trapezoids. -/
lemma total (h : Since w opening past) :
    w.total.duration = (past.getLastD opening).1 - opening.1 ∧
      (w.coning = false → w.total.change = trapezoids (opening :: past)) := by
  have lastTime : w.lastTime = (past.getLastD opening).1 := congrArg Prod.fst h.last
  constructor
  · rw [DeltaWindow.total, h.openedAt, lastTime]
    exact elapsed_of_le h.order
  · intro plain
    rw [DeltaWindow.total, plain]
    exact h.sum plain

/-- The window is due to close at the last sample if the interval has gone by. -/
lemma isDue_iff (h : Since w opening past) (positive : 0 < w.interval) :
    w.isDue = true ↔ w.interval ≤ (past.getLastD opening).1 - opening.1 := by
  have lastTime : w.lastTime = (past.getLastD opening).1 := congrArg Prod.fst h.last
  rw [isDue, h.openedAt, lastTime, elapsed_of_le h.order]
  simp [positive]

/-- Less than an interval after the opening, a sample is taken without an answer. -/
lemma put_of_short (h : Since w opening past) (positive : 0 < w.interval) {s : Timed}
    (later : (past.getLastD opening).1 ≤ s.1) (short : s.1 - opening.1 < w.interval) :
    (w.put s.1 s.2).1 = none ∧ Since (w.put s.1 s.2).2 opening (past ++ [s]) := by
  have extended := h.extend later
  have interval : (w.extend s.1 s.2).interval = w.interval := by rw [extend_eq]
  have early : ¬(w.extend s.1 s.2).isDue = true := by
    rw [extended.isDue_iff (interval ▸ positive), interval, List.getLastD_concat]
    exact UInt64.not_le.mpr short
  rw [put, if_neg h.not_first, if_neg early]
  exact ⟨rfl, extended⟩

/-- An interval or more after the opening, a sample closes the window and opens the next one. -/
lemma put_of_due (h : Since w opening past) (positive : 0 < w.interval) {s : Timed}
    (later : (past.getLastD opening).1 ≤ s.1) (due : w.interval ≤ s.1 - opening.1) :
    ∃ delta, (w.put s.1 s.2).1 = some delta ∧ delta.duration = s.1 - opening.1 ∧
      (w.coning = false → delta.change = trapezoids (opening :: (past ++ [s]))) ∧
      Since (w.put s.1 s.2).2 s [] := by
  have extended := h.extend later
  have settings : (w.extend s.1 s.2).interval = w.interval ∧
      (w.extend s.1 s.2).coning = w.coning := by
    rw [extend_eq]
    exact ⟨rfl, rfl⟩
  have closes : (w.extend s.1 s.2).isDue = true := by
    rw [extended.isDue_iff (settings.1 ▸ positive), settings.1, List.getLastD_concat]
    exact due
  obtain ⟨duration, change⟩ := extended.total
  have reopened := extended.reopen
  rw [List.getLastD_concat] at duration reopened
  rw [settings.2] at change
  rw [put, if_neg h.not_first, if_pos closes]
  exact ⟨_, rfl, duration, change, reopened⟩

/-- The answers to samples that are in order are read off their tiling. -/
lemma run (h : Since w opening past) (positive : 0 < w.interval)
    (short : ∀ s ∈ past, s.1 - opening.1 < w.interval) {rest : List Timed}
    (ordered : (past.getLastD opening :: rest).IsChain (·.1 ≤ ·.1)) :
    ∃ windows last left, Tiling w.interval opening (past ++ rest) windows last left ∧
      past.map (fun _ => none) ++ (w.run rest).1 =
        windows.flatMap Closed.answers ++ left.map (fun _ => none) ∧
      (∀ c ∈ windows, c.opening.1 ≤ c.closing.1 ∧
        c.delta.duration = c.closing.1 - c.opening.1 ∧
        (w.coning = false → c.delta.change = trapezoids c.samples)) ∧
      Since (w.run rest).2 last left := by
  induction rest generalizing w opening past with
  | nil =>
    refine ⟨[], opening, past, ?_, ?_, nofun, h⟩
    · rw [List.append_nil]
      exact .remainder short
    · simp
  | cons s rest ih =>
    obtain ⟨later, ordered⟩ := List.isChain_cons_cons.mp ordered
    obtain ⟨interval, coning⟩ := settings_put w s.1 s.2
    by_cases due : w.interval ≤ s.1 - opening.1
    · obtain ⟨delta, answer, duration, change, reopened⟩ := h.put_of_due positive later due
      obtain ⟨windows, last, left, tiling, answers, sound, since⟩ :=
        ih reopened (interval ▸ positive) nofun ordered
      rw [interval, List.nil_append] at tiling
      rw [List.map_nil, List.nil_append] at answers
      rw [coning] at sound
      refine ⟨⟨opening, past, s, delta⟩ :: windows, last, left, ?_, ?_, ?_, since⟩
      · exact .closes ⟨opening, past, s, delta⟩ short due tiling
      · rw [run_cons, answer, answers, List.flatMap_cons]
        simp [Closed.answers]
      · intro c member
        rcases List.mem_cons.mp member with rfl | member
        · exact ⟨UInt64.le_trans h.order later, duration, change⟩
        · exact sound c member
    · have within := UInt64.not_le.mp due
      obtain ⟨answer, since⟩ := h.put_of_short positive later within
      have still : ∀ s' ∈ past ++ [s], s'.1 - opening.1 < (w.put s.1 s.2).2.interval := by
        rw [interval]
        intro s' member
        rcases List.mem_append.mp member with member | member
        · exact short s' member
        · exact List.mem_singleton.mp member ▸ within
      have ordered : ((past ++ [s]).getLastD opening :: rest).IsChain (·.1 ≤ ·.1) := by
        rw [List.getLastD_concat]
        exact ordered
      obtain ⟨windows, last, left, tiling, answers, sound, since⟩ :=
        ih since (interval ▸ positive) still ordered
      rw [interval, List.append_assoc, List.singleton_append] at tiling
      rw [coning] at sound
      refine ⟨windows, last, left, tiling, ?_, sound, since⟩
      rw [← answers, run_cons, answer]
      simp

end Since

/-! ### Whole sequences of samples -/

/-- The first sample opens a window, and is not integrated. -/
lemma since_first (interval : UInt64) (coning : Bool) {first : Timed} (started : 0 < first.1) :
    Since { interval := interval, coning := coning, lastTime := first.1, openedAt := first.1,
            lastValue := first.2 } first [] where
  started := started
  order := UInt64.le_refl _
  openedAt := rfl
  last := rfl
  sum _ := rfl

/-- With interval zero no window ever closes. -/
lemma run_of_zero {w : DeltaWindow} (zero : w.interval = 0) (samples : List Timed) :
    (w.run samples).1 = samples.map fun _ => none := by
  induction samples generalizing w with
  | nil => rfl
  | cons s samples ih =>
    have answer : (w.put s.1 s.2).1 = none := by
      have never : ¬(w.extend s.1 s.2).isDue = true := by
        rw [extend_eq, isDue, zero]
        simp
      simp only [put, if_neg never]
      split
      · rfl
      · rfl
    have kept := (settings_put w s.1 s.2).1.trans zero
    rw [run_cons, answer, List.map_cons, ih kept]

/-- Windows partition the time and the samples. Samples are given to a new integration in order, the
first one after time zero. They are then cut into windows, each of which closes at the first sample
an interval or more after the one at which it opened. The answers are those of the windows: to the
sample that closes one, the time since its opening and, unless coning is corrected, the sum of the
trapezoids of the samples in it; and none to any other sample. The times answered and that since the
last opening add up to the time from the first sample to the last one, and each pair of consecutive
samples is in one window or in the remainder. With interval zero no window ever closes. -/
theorem windows_partition_samples (interval : UInt64) (coning : Bool) :
    let w : DeltaWindow := { interval := interval, coning := coning }
    (interval = 0 → ∀ samples : List Timed, (w.run samples).1 = samples.map fun _ => none) ∧
      (0 < interval → ∀ (first : Timed) (rest : List Timed), 0 < first.1 →
        (first :: rest).IsChain (·.1 ≤ ·.1) →
          ∃ windows last left, Tiling interval first rest windows last left ∧
            (w.run (first :: rest)).1 =
              none :: (windows.flatMap Closed.answers ++ left.map fun _ => none) ∧
            (∀ c ∈ windows, c.opening.1 ≤ c.closing.1 ∧
              c.delta.duration = c.closing.1 - c.opening.1 ∧
              (coning = false → c.delta.change = trapezoids c.samples)) ∧
            (windows.map (·.delta.duration.toNat)).sum +
                (w.run (first :: rest)).2.total.duration.toNat =
              (rest.getLastD first).1.toNat - first.1.toNat ∧
            pairs (first :: rest) =
              windows.flatMap (fun c => pairs c.samples) ++ pairs (last :: left)) := by
  intro w
  constructor
  · intro zero samples
    exact run_of_zero zero samples
  · intro positive first rest started ordered
    have opened : w.put first.1 first.2 =
        (none, { w with lastTime := first.1, openedAt := first.1, lastValue := first.2 }) :=
      if_pos rfl
    obtain ⟨windows, last, left, tiling, answers, sound, since⟩ :=
      (since_first interval coning started).run positive nofun ordered
    rw [List.map_nil, List.nil_append] at answers
    have lengths : windows.map (·.delta.duration.toNat) =
        windows.map fun c => c.closing.1.toNat - c.opening.1.toNat := by
      refine List.map_congr_left fun c member => ?_
      obtain ⟨order, duration, -⟩ := sound c member
      rw [duration, UInt64.toNat_sub_of_le _ _ order]
    have closed := tiling.sum_lengths fun c member => (sound c member).1
    refine ⟨windows, last, left, tiling, ?_, sound, ?_, tiling.pairs_eq⟩
    · rw [run_cons, opened, answers]
    · rw [run_cons, opened, since.total.1, UInt64.toNat_sub_of_le _ _ since.order, lengths]
      have order := UInt64.le_iff_toNat_le.mp since.order
      rw [tiling.getLastD_eq] at order ⊢
      rw [List.nil_append] at order ⊢
      omega

/-- Six samples at uneven times, with windows of two milliseconds: all but the last half of a
millisecond is answered, and the answers are sums of trapezoids. -/
theorem windows_at_uneven_times :
    let v : Axes Float32 := .replicate 1
    let rest : List Timed := [(2000, v), (3000, v), (4000, v), (6500, v), (7000, v)]
    0 < (2000 : UInt64) ∧ 0 < (1000 : UInt64) ∧
      ((1000, v) :: rest : List Timed).IsChain (·.1 ≤ ·.1) ∧
      ∃ windows last left, Tiling 2000 (1000, v) rest windows last left ∧
        (∀ c ∈ windows, c.delta.change = trapezoids c.samples) ∧
        (windows.map (·.delta.duration.toNat)).sum + 500 = 6000 := by
  intro v rest
  have positive : 0 < (2000 : UInt64) := by decide
  have started : 0 < (1000 : UInt64) := by decide
  have ordered : ((1000, v) :: rest : List Timed).IsChain (·.1 ≤ ·.1) := by simp [rest]
  obtain ⟨windows, last, left, tiling, -, sound, time, -⟩ :=
    (windows_partition_samples 2000 false).2 positive (1000, v) rest started ordered
  refine ⟨positive, started, ordered, windows, last, left, tiling, ?_, ?_⟩
  · exact fun c member => (sound c member).2.2 rfl
  · have remaining :
        (run { interval := 2000, coning := false } ((1000, v) :: rest)).2.total.duration = 500 := by
      decide +kernel
    rw [remaining] at time
    simpa [rest] using time

end InertialSensor.DeltaWindow
