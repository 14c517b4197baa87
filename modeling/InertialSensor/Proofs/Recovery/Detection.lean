import InertialSensor.Proofs.Recovery.Settling
import InertialSensor.Proofs.Recovery.Sweep
import InertialSensor.Proofs.Signal.Conservation

/-!
# Detection of wrong registers

The checked registers are verified one after the other, and after the last one the first again. To
say so of what goes over the bus, the bus is put behind a `Tap`, which lists the reads of single
registers: in a cycle, these are the checks of the register due. `Tour` says in which order checks
go: each is for the register at the cursor, a successful one moves the cursor on, and one that fails
leaves it where it is.

As long as no register is found wrong, each successful check takes the cursor one place further past
the place of a register that stays wrong (`Checking.passes`). It cannot go past it by a whole round,
so that register is come to within one round (`found_within_one_round`).
-/

namespace InertialSensor

/-! ### Tapping the bus -/

/-- A read of a single register: the bus as it was, the register asked for, and the value found. A
read that fails, or claims another number of bytes, finds none. -/
structure SingleRead (σ : Type) where
  bus : σ
  address : UInt8
  found : Option UInt8

/-- A value was found. -/
def SingleRead.succeeds {σ : Type} (x : SingleRead σ) : Bool := x.found.isSome

/-- A transport, and the reads of single registers through it, the earliest first. -/
structure Tap (σ : Type) where
  inner : σ
  singles : List (SingleRead σ) := []

/-- The value that a read of a single register found. -/
def foundBy {n : Nat} : Except String (Reading n) → Option UInt8
  | .ok reading => if reading.count = 1 then reading.bytes[0]? else none
  | .error _ => none

lemma foundBy_eq_some_iff {result : Except String (Reading 1)} {found : UInt8} :
    foundBy result = some found ↔
      ∃ reading : Reading 1, result = .ok reading ∧ reading.count = 1 ∧
        reading.bytes.get 0 = found := by
  cases result with
  | error text => exact ⟨nofun, nofun⟩
  | ok reading =>
    simp only [foundBy, Except.ok.injEq, exists_eq_left', Option.ite_none_right_eq_some]
    exact and_congr_right fun _ => Option.some_inj

namespace Tap

variable {σ : Type} [Transport σ]

instance : Transport (Tap σ) where
  read {n} address speed buffer t :=
    let (result, inner) := Transport.read address speed buffer t.inner
    let new := if n = 1 then [⟨t.inner, address, foundBy result⟩] else []
    (result, ⟨inner, t.singles ++ new⟩)
  write address value t :=
    let (result, inner) := Transport.write address value t.inner
    (result, { t with inner := inner })
  placement t := Transport.placement t.inner
  deviceId t := Transport.deviceId t.inner

lemma singles_read_of_ne {n : Nat} (address : UInt8) (speed : Speed) (buffer : Vector UInt8 n)
    (t : Tap σ) (more : n ≠ 1) :
    (Transport.read address speed buffer t).2.singles = t.singles := by
  simp [Transport.read, more]

end Tap

/-! ### The order of checks -/

/-- The first `n` of the checked registers from a place on, in cyclic order. -/
def Register.inOrder (cursor : Fin 8) (n : Nat) : List UInt8 :=
  (List.iterate (finRotate 8) cursor n).map checked.get

namespace Register

@[simp] lemma inOrder_succ (cursor : Fin 8) (n : Nat) :
    inOrder cursor (n + 1) = checked.get cursor :: inOrder (cursor + 1) n := by
  rw [← finRotate_apply, inOrder, inOrder, List.iterate, List.map_cons]

@[simp] lemma length_inOrder (cursor : Fin 8) (n : Nat) : (inOrder cursor n).length = n := by
  simp [inOrder]

lemma inOrder_add (cursor : Fin 8) (m n : Nat) :
    inOrder cursor (m + n) = inOrder cursor m ++ inOrder ((finRotate 8)^[m] cursor) n := by
  simp [inOrder, List.iterate_add]

/-- Eight of them in a row are all checked registers, each of them once. -/
lemma inOrder_eight_perm : ∀ cursor : Fin 8, (inOrder cursor 8).Perm checked.toList := by
  decide

/-- Of all that is read in cyclic order, each eight in a row are all checked registers. -/
lemma perm_of_inOrder {cursor : Fin 8} {n : Nat} {before eight after : List UInt8}
    (order : before ++ eight ++ after = inOrder cursor n) (row : eight.length = 8) :
    eight.Perm checked.toList := by
  have total := congrArg List.length order
  simp only [List.length_append, length_inOrder, row] at total
  rw [← total, inOrder_add, inOrder_add] at order
  have first := List.append_inj_left order (by simp [row])
  have second := List.append_inj_right first (by simp)
  rw [second]
  exact inOrder_eight_perm _

end Register

section

variable {σ : Type}

/-- The reads among these that found a value. -/
def successful (xs : List (SingleRead σ)) : List (SingleRead σ) := xs.filter SingleRead.succeeds

@[simp] lemma successful_append (xs ys : List (SingleRead σ)) :
    successful (xs ++ ys) = successful xs ++ successful ys :=
  List.filter_append ..

/-- Reads that go round the checked registers, from one place of the cursor to another. A read that
fails leaves the cursor where it is. -/
inductive Tour : Fin 8 → List (SingleRead σ) → Fin 8 → Prop where
  | done (c : Fin 8) : Tour c [] c
  | failed {x : SingleRead σ} {later : List (SingleRead σ)} {c c' : Fin 8}
      (due : x.address = Register.checked.get c) (failed : x.succeeds = false)
      (rest : Tour c later c') : Tour c (x :: later) c'
  | succeeded {x : SingleRead σ} {later : List (SingleRead σ)} {c c' : Fin 8}
      (due : x.address = Register.checked.get c) (succeeded : x.succeeds = true)
      (rest : Tour (c + 1) later c') : Tour c (x :: later) c'

/-- The successful reads of a tour are for the checked registers in cyclic order. -/
lemma Tour.addresses {xs : List (SingleRead σ)} {c c' : Fin 8} (tour : Tour c xs c') :
    (successful xs).map SingleRead.address = Register.inOrder c (successful xs).length := by
  induction tour with
  | done => rfl
  | failed _ failed _ ih => simpa [successful, failed] using ih
  | succeeded due succeeded _ ih => simpa [successful, succeeded, due] using ih

end

/-! ### What a check does to the round -/

namespace Driver

section

variable {σ : Type}

/-- The ways the round of checks goes on, given the reads made: no register is checked; or the one
at the cursor is, in vain; or it is right, and the cursor moves on; or it is found wrong. -/
inductive Checking (d : Driver (Tap σ)) : List (SingleRead σ) → Driver (Tap σ) → Prop where
  | unchecked {d' : Driver (Tap σ)} (stays : d'.watch.shadow.cursor = d.watch.shadow.cursor)
      (same : d'.stats.badRegisters = d.stats.badRegisters)
      (idle : d'.stats.goodTransfers = d.stats.goodTransfers) : Checking d [] d'
  | failed {bus : σ} {d' : Driver (Tap σ)}
      (stays : d'.watch.shadow.cursor = d.watch.shadow.cursor)
      (same : d'.stats.badRegisters = d.stats.badRegisters) :
      Checking d [⟨bus, d.watch.shadow.address, none⟩] d'
  | right {bus : σ} {d' : Driver (Tap σ)}
      (moves : d'.watch.shadow.cursor = d.watch.shadow.cursor + 1)
      (same : d'.stats.badRegisters = d.stats.badRegisters) :
      Checking d [⟨bus, d.watch.shadow.address, some d.watch.shadow.value⟩] d'
  | wrong {bus : σ} {found : UInt8} {d' : Driver (Tap σ)} (wrong : found ≠ d.watch.shadow.value)
      (more : d.stats.badRegisters < d'.stats.badRegisters) :
      Checking d [⟨bus, d.watch.shadow.address, some found⟩] d'

namespace Checking

variable {d d₁ d' d'' : Driver (Tap σ)} {new : List (SingleRead σ)}

lemma of_idle (idle : Idle d d') : Checking d [] d' :=
  .unchecked (by rw [idle.watch]) (by rw [idle.stats]) (by rw [idle.stats])

/-- At the start only the shadow and the counters matter. -/
lemma of_start (h : Checking d₁ new d') (shadow : d₁.watch.shadow = d.watch.shadow)
    (bad : d₁.stats.badRegisters = d.stats.badRegisters)
    (good : d₁.stats.goodTransfers = d.stats.goodTransfers) : Checking d new d' := by
  cases h with
  | unchecked stays same idle => exact .unchecked (shadow ▸ stays) (bad ▸ same) (good ▸ idle)
  | failed stays same =>
    rw [shadow] at stays ⊢
    exact .failed stays (bad ▸ same)
  | right moves same =>
    rw [shadow] at moves ⊢
    exact .right moves (bad ▸ same)
  | wrong wrong more =>
    rw [shadow] at wrong ⊢
    exact .wrong wrong (bad ▸ more)

/-- In the end only the cursor and the counters matter, that of good transfers only if there was no
check. -/
lemma to_end (h : Checking d new d') (cursor : d''.watch.shadow.cursor = d'.watch.shadow.cursor)
    (bad : d''.stats.badRegisters = d'.stats.badRegisters)
    (good : new = [] → d''.stats.goodTransfers = d'.stats.goodTransfers) :
    Checking d new d'' := by
  cases h with
  | unchecked stays same idle =>
    exact .unchecked (cursor.trans stays) (bad.trans same) ((good rfl).trans idle)
  | failed stays same => exact .failed (cursor.trans stays) (bad.trans same)
  | right moves same => exact .right (cursor.trans moves) (bad.trans same)
  | wrong wrong more => exact .wrong wrong (bad ▸ more)

lemma length_le_one (h : Checking d new d') : new.length ≤ 1 := by
  cases h with
  | unchecked => exact Nat.zero_le 1
  | failed | right | wrong => exact le_rfl

/-- A good transfer comes with one check. -/
lemma length_of_good (h : Checking d new d')
    (good : d.stats.goodTransfers < d'.stats.goodTransfers) : new.length = 1 := by
  cases h with
  | unchecked _ _ idle => exact absurd idle good.ne'
  | failed | right | wrong => rfl

/-- Unless a register is found wrong, the tour goes on with what is checked. -/
lemma tour (h : Checking d new d') (right : ¬d.stats.badRegisters < d'.stats.badRegisters)
    {later : List (SingleRead σ)} {c : Fin 8} (rest : Tour d'.watch.shadow.cursor later c) :
    Tour d.watch.shadow.cursor (new ++ later) c := by
  cases h with
  | unchecked stays => exact stays ▸ rest
  | failed stays => exact .failed rfl rfl (stays ▸ rest)
  | right moves => exact .succeeded rfl rfl (moves ▸ rest)
  | wrong _ more => exact absurd more right

/-- If reads are true and the register at place `i` is wrong, then a register is found wrong, or
each successful check takes the cursor one place further past it. -/
lemma passes {content : σ → UInt8 → UInt8} {i : Fin 8} (h : Checking d new d')
    (honest : ∀ x ∈ new, ∀ value ∈ x.found, value = content x.bus x.address)
    (wrong : ∀ x ∈ new,
      content x.bus (Register.checked.get i) ≠ d.watch.shadow.values.get i) :
    d.stats.badRegisters < d'.stats.badRegisters ∨
      passedSince d'.watch.shadow.cursor i =
        passedSince d.watch.shadow.cursor i + (successful new).length := by
  cases h with
  | unchecked stays | failed stays => exact .inr (congrArg (passedSince · i) stays)
  | right moves =>
    have other : i ≠ d.watch.shadow.cursor := by
      rintro rfl
      exact wrong _ List.mem_cons_self (honest _ List.mem_cons_self _ rfl).symm
    exact .inr ((congrArg (passedSince · i) moves).trans (passedSince_succ other))
  | wrong _ more => exact .inl more

end Checking

end

variable {σ : Type} [Transport σ] {d d' d'' : Driver (Tap σ)}

/-! ### One cycle -/

/-- No single register was read, and nothing changed that depends on what is found in one. -/
structure Unread (d d' : Driver (Tap σ)) : Prop where
  singles : d'.bus.singles = d.bus.singles
  shadow : d'.watch.shadow = d.watch.shadow
  bad : d'.stats.badRegisters = d.stats.badRegisters

omit [Transport σ] in
lemma Unread.trans (h : Unread d d') (h' : Unread d' d'') : Unread d d'' where
  singles := h'.singles.trans h.singles
  shadow := h'.shadow.trans h.shadow
  bad := h'.bad.trans h.bad

lemma Restoration.unread {result : Except Failure Unit} (restored : Restoration d result d') :
    Unread d d' := by
  cases restored with
  | notDue | failed | done => exact ⟨rfl, rfl, rfl⟩

lemma Fetching.unread {result : Except Failure (Vector UInt8 blockSize)}
    (fetched : Fetching d result d') : Unread d d' := by
  cases fetched with
  | failed | fetched => exact ⟨Tap.singles_read_of_ne _ _ _ _ (by decide), rfl, rfl⟩

omit [Transport σ] in
lemma Digestion.unread {block : Vector UInt8 blockSize} {outcome : Except Failure Cycle}
    (digested : Digestion block d outcome d') : Unread d d' := by
  cases digested with
  | repeated | empty | withheld | accepted => exact ⟨rfl, rfl, rfl⟩

/-- The value found in a register is the one that the driver reads. -/
lemma foundBy_eq_some_iff_readRegister {address : UInt8} {speed : Speed} {found : UInt8} :
    foundBy (Transport.read address speed (Vector.replicate 1 0) d.bus).1 = some found ↔
      (readRegister address speed d).1 = .ok found :=
  foundBy_eq_some_iff.trans readRegister_ok_iff.symm

/-- A verification checks the register at the cursor. -/
lemma Verification.checking (verified : Verification d d') :
    ∃ new ≠ [], d'.bus.singles = d.bus.singles ++ new ∧ Checking d new d' := by
  refine ⟨[⟨d.bus.inner, d.watch.shadow.address,
    foundBy (Transport.read d.watch.shadow.address .high (Vector.replicate 1 0) d.bus).1⟩],
    List.cons_ne_nil _ _, ?_, ?_⟩
  · cases verified with
    | unread | right | reset | repair => rfl
  · cases verified with
    | unread _ h =>
      have none : foundBy (Transport.read d.watch.shadow.address .high
          (Vector.replicate 1 0) d.bus).1 = none := by
        refine Option.eq_none_iff_forall_ne_some.mpr fun found some => ?_
        rw [foundBy_eq_some_iff_readRegister.mp some] at h
        cases h
      rw [none]
      exact .failed rfl rfl
    | right h =>
      rw [foundBy_eq_some_iff_readRegister.mpr h]
      exact .right rfl rfl
    | reset _ h wrong | repair _ h wrong =>
      rw [foundBy_eq_some_iff_readRegister.mpr h]
      exact .wrong wrong (Nat.lt_succ_self _)

/-- What a cycle does to the round of checks. -/
lemma Course.checking {outcome : Except Failure Cycle} (course : Course d outcome d')
    (verifies : d.config.verifies = true) :
    ∃ new, d'.bus.singles = d.bus.singles ++ new ∧ Checking d new d' := by
  -- Single registers are read by the verification only; what comes before and after it is unread.
  have unchecked (unread : Unread d d')
      (idle : d'.stats.goodTransfers = d.stats.goodTransfers) :
      ∃ new, d'.bus.singles = d.bus.singles ++ new ∧ Checking d new d' :=
    ⟨[], by rw [unread.singles, List.append_nil], .unchecked (by rw [unread.shadow]) unread.bad idle⟩
  have counted (d : Driver (Tap σ)) : Unread d d.countedCycle := ⟨rfl, rfl, rfl⟩
  cases course with
  | skipped => exact unchecked ⟨rfl, rfl, rfl⟩ rfl
  | asleep _ restored => exact unchecked restored.unread (by rw [restored.stats_eq])
  | @lost _ d₁ _ _ restored fetched =>
    refine unchecked (restored.unread.trans ((counted d₁).trans fetched.unread)) ?_
    have same : d₁.stats.goodTransfers = d.stats.goodTransfers := by rw [restored.stats_eq]
    cases fetched with
    | failed => exact same
  | @digested _ _ d₁ d₂ d₃ _ _ restored fetched verified digested =>
    have opened : Unread d d₂ := restored.unread.trans ((counted d₁).trans fetched.unread)
    obtain ⟨-, stats, -⟩ := fetched.after_restoration restored
    rw [if_pos verifies] at verified
    obtain ⟨new, some, singles, checking⟩ := verified.checking
    refine ⟨new, by rw [digested.unread.singles, singles, opened.singles], ?_⟩
    exact (checking.of_start opened.shadow opened.bad (by rw [stats])).to_end
      (by rw [digested.unread.shadow]) digested.unread.bad fun none => absurd none some

end Driver

/-- The registers that the cycle checks. -/
def Passage.checks {σ : Type} [Transport σ] (p : Passage (Tap σ)) : List (SingleRead σ) :=
  p.after.bus.singles.drop p.before.bus.singles.length

namespace Driver

variable {σ : Type} [Transport σ]

lemma checking_of_passage {p : Passage (Tap σ)} (verifies : p.before.config.verifies = true) :
    Checking p.before p.checks p.after := by
  obtain ⟨new, singles, checking⟩ := (Course.of_measure p.before).checking verifies
  have checks : p.checks = new := by
    change p.after.bus.singles = _ at singles
    rw [Passage.checks, singles, List.drop_left]
  exact checks ▸ checking

/-! ### One step -/

/-- Whether registers are verified never changes. -/
lemma verifies_invariant : Invariant fun d : Driver σ => d.config.verifies = true where
  touch touch h := by
    cases touch with
    | aside aside => exact aside.verifies.trans h
    | read | refused | written | reset => exact h
  clear h := h
  restoration restored h := by cases restored with | notDue | failed | done => exact h
  counting h := h
  fetching fetched h := by cases fetched with | failed | fetched => exact h
  verification verified h := by
    cases verified with | unread | right | reset | repair => exact h
  digestion digested h := by
    cases digested with | repeated | empty | withheld | accepted => exact h

namespace Step

variable {s : Step (Tap σ)}

/-- The registers checked in the step. -/
def checks (s : Step (Tap σ)) : List (SingleRead σ) := s.passage?.elim [] Passage.checks

/-- What a step other than a successful reset does to the round of checks. -/
lemma checking (verifies : s.before.config.verifies = true) (vain : s.resets = false) :
    Checking s.before s.checks s.after := by
  cases Progress.of_step s with
  | quiet without _ quiet =>
    rw [checks, without]
    exact .of_idle quiet.idle
  | reset _ took => cases vain.symm.trans took
  | @cycle p within _ _ last =>
    obtain ⟨streams, before⟩ := s.before_of_passage? within
    have checking : Checking p.before p.checks p.after :=
      checking_of_passage (by rw [before]; exact verifies)
    rw [checks, within]
    exact (checking.of_start (by rw [before]) (by rw [before]) (by rw [before])).to_end
      (by rw [last.idle.watch]) (by rw [last.idle.stats]) fun _ => by rw [last.idle.stats]

/-- As far as the step checks registers, what is read is the content of the sensor, and the register
at place `i` has another content than it should. -/
structure Misses (content : σ → UInt8 → UInt8) (i : Fin 8) (s : Step (Tap σ)) : Prop where
  honest : ∀ x ∈ s.checks, ∀ value ∈ x.found, value = content x.bus x.address
  wrong : ∀ x ∈ s.checks,
    content x.bus (Register.checked.get i) ≠ s.before.watch.shadow.values.get i

/-- Unless a register is found wrong, each successful check takes the cursor one place further past
the wrong one. -/
lemma Misses.passes {content : σ → UInt8 → UInt8} {i : Fin 8} (misses : s.Misses content i)
    (verifies : s.before.config.verifies = true) (vain : s.resets = false)
    (right : s.findsMismatch = false) :
    passedSince s.after.watch.shadow.cursor i =
      passedSince s.before.watch.shadow.cursor i + (successful s.checks).length := by
  rcases (checking verifies vain).passes misses.honest misses.wrong with more | passes
  · cases right.symm.trans (s.findsMismatch_iff.mpr more)
  · exact passes

end Step

/-! ### Runs -/

/-- The registers checked in a run, the earliest first. -/
def checks (steps : List (Step (Tap σ))) : List (SingleRead σ) := steps.flatMap Step.checks

lemma length_successful_cons (s : Step (Tap σ)) (steps : List (Step (Tap σ))) :
    (successful (checks (s :: steps))).length =
      (successful s.checks).length + (successful (checks steps)).length := by
  simp [checks]

/-- As long as no register is found wrong, the checks of a run are a tour. -/
lemma tour_of_right {ops : List Operation} {d : Driver (Tap σ)}
    (verifies : d.config.verifies = true) (vain : ∀ s ∈ history ops d, s.resets = false)
    (right : ∀ s ∈ history ops d, s.findsMismatch = false) :
    Tour d.watch.shadow.cursor (checks (history ops d))
      (performAll ops d).2.watch.shadow.cursor := by
  induction ops generalizing d with
  | nil => exact .done _
  | cons op ops ih =>
    obtain ⟨vain, later⟩ := List.forall_mem_cons.mp vain
    obtain ⟨right, others⟩ := List.forall_mem_cons.mp right
    have checking := Step.checking (s := ⟨op, d⟩) verifies vain
    refine checking.tour (fun more => ?_) (ih (verifies_invariant.perform op verifies) later others)
    cases right.symm.trans ((Step.findsMismatch_iff _).mpr more)

/-- The cursor comes to a register that stays wrong, unless one is found wrong before that. -/
lemma exists_mismatch {content : σ → UInt8 → UInt8} {i : Fin 8} {ops : List Operation}
    {d : Driver (Tap σ)} (verifies : d.config.verifies = true)
    (vain : ∀ s ∈ history ops d, s.resets = false)
    (misses : ∀ s ∈ history ops d, s.Misses content i)
    (round : 8 ≤ passedSince d.watch.shadow.cursor i + (successful (checks (history ops d))).length) :
    ∃ past s later, history ops d = past ++ s :: later ∧ s.findsMismatch = true ∧
      passedSince d.watch.shadow.cursor i + (successful (checks (past ++ [s]))).length ≤ 8 := by
  -- A step with no mismatch adds to what was passed as many checks as it leaves fewer to come.
  induction ops generalizing d with
  | nil => exact absurd round (Nat.not_le.mpr (passedSince_lt_eight _ i))
  | cons op ops ih =>
    obtain ⟨vain, laterVain⟩ := List.forall_mem_cons.mp vain
    obtain ⟨misses, laterMisses⟩ := List.forall_mem_cons.mp misses
    cases mismatch : (⟨op, d⟩ : Step (Tap σ)).findsMismatch with
    | true =>
      refine ⟨[], ⟨op, d⟩, _, rfl, mismatch, ?_⟩
      have passed := passedSince_lt_eight d.watch.shadow.cursor i
      have single : (successful (Step.checks ⟨op, d⟩)).length ≤ 1 :=
        (List.length_filter_le ..).trans (Step.checking verifies vain).length_le_one
      rw [List.nil_append, length_successful_cons]
      exact Nat.add_le_add (Nat.le_of_lt_succ passed) single
    | false =>
      have passes : passedSince (perform op d).2.watch.shadow.cursor i =
          passedSince d.watch.shadow.cursor i + _ := misses.passes verifies vain mismatch
      rw [history, length_successful_cons] at round
      obtain ⟨past, s, later, run, found, few⟩ :=
        ih (verifies_invariant.perform op verifies) laterVain laterMisses (by omega)
      refine ⟨⟨op, d⟩ :: past, s, later, congrArg _ run, found, ?_⟩
      rw [List.cons_append, length_successful_cons]
      omega

/-- Checks go round the checked registers. In any stretch of a run without a successful reset, each
good transfer comes with one check; and as long as no register is found wrong, checks are for the
register at the cursor, those that fail leave the cursor where it is, and each eight successful ones
in a row are for all checked registers. So if reads are true and a register stays wrong, whatever
the bus does otherwise, a register is found wrong and a recovery ordered by the time the cursor
has come to it, which takes at most eight successful checks. -/
theorem found_within_one_round {d : Driver (Tap σ)} (verifies : d.config.verifies = true)
    (earlier ops : List Operation)
    (vain : ∀ s ∈ history ops (performAll earlier d).2, s.resets = false) :
    let start := (performAll earlier d).2
    let steps := history ops start
    let final := (performAll ops start).2
    let reads := successful (checks steps)
    (∀ s ∈ steps, s.isGood = true → s.checks.length = 1) ∧
      ((∀ s ∈ steps, s.findsMismatch = false) →
        Tour start.watch.shadow.cursor (checks steps) final.watch.shadow.cursor ∧
          reads.map SingleRead.address =
            Register.inOrder start.watch.shadow.cursor reads.length ∧
          ∀ before eight after, reads = before ++ eight ++ after → eight.length = 8 →
            (eight.map SingleRead.address).Perm Register.checked.toList) ∧
      final.watch.shadow.cursor.val < 8 ∧
      ∀ (content : σ → UInt8 → UInt8) (i : Fin 8), (∀ s ∈ steps, s.Misses content i) →
        let due := 8 - passedSince start.watch.shadow.cursor i
        due ≤ 8 ∧
          (due ≤ reads.length →
            ∃ past s later, steps = past ++ s :: later ∧ s.findsMismatch = true ∧
              s.order?.isSome = true ∧ (successful (checks (past ++ [s]))).length ≤ due) := by
  intro start steps final reads
  have verifies : start.config.verifies = true := verifies_invariant.performAll earlier verifies
  refine ⟨fun s member good => ?_, fun right => ?_, Fin.isLt _, fun content i misses => ?_⟩
  · have verifies := before_of_mem (I := fun d : Driver (Tap σ) => d.config.verifies = true)
      verifies (fun s h => verifies_invariant.perform s.operation h) s member
    exact (s.checking verifies (vain s member)).length_of_good (s.isGood_iff.mp good)
  · have tour := tour_of_right verifies vain right
    refine ⟨tour, tour.addresses, fun before eight after row length => ?_⟩
    have order := congrArg (List.map SingleRead.address) row.symm
    rw [List.map_append, List.map_append] at order
    exact Register.perm_of_inOrder (order.trans tour.addresses) (by rw [List.length_map, length])
  · refine ⟨Nat.sub_le .., fun many => ?_⟩
    obtain ⟨past, s, later, run, mismatch, few⟩ :=
      exists_mismatch verifies vain misses (Nat.sub_le_iff_le_add'.mp many)
    refine ⟨past, s, later, run, mismatch, s.findsMismatch_eq.symm.trans mismatch, ?_⟩
    exact Nat.le_sub_of_add_le' few

section

open Simulation

/-- A sensor that was brought up, with `value` in the last of the checked registers, behind a bus on
which the first check fails. -/
def recheck (value : UInt8) : Driver (Tap (FaultPlan Sensor)) :=
  let registers := broughtUp.bus.inner.registers.setIfInBounds 0x37 value
  broughtUp.withBus ⟨⟨{ broughtUp.bus.inner with registers := registers }, [.pass, .fail]⟩, []⟩

/-- With all registers right, the first eight of nine successful checks and the last eight are both
a round. With the last register wrong, it is found at the end of the first round. -/
theorem found_within_one_round_at_last_place :
    let reads := successful (checks (history (.replicate 10 .measure) (recheck 0x10)))
    (reads.length = 9 ∧
        ((reads.take 8).map SingleRead.address).Perm Register.checked.toList ∧
        ((reads.drop 1).map SingleRead.address).Perm Register.checked.toList) ∧
      ∃ past s later,
        history (.replicate 9 .measure) (recheck 0) = past ++ s :: later ∧
          s.findsMismatch = true ∧ s.order?.isSome = true ∧
          (successful (checks (past ++ [s]))).length ≤ 8 := by
  intro reads
  have vain (n : Nat) (value : UInt8) :
      ∀ s ∈ history (.replicate n .measure) (recheck value), s.resets = false := fun s member =>
    Step.vain_of_gentle (by rw [List.eq_of_mem_replicate (operation_mem member)]; rfl)
  constructor
  · have run : (∀ s ∈ history (.replicate 10 .measure) (recheck 0x10), s.findsMismatch = false) ∧
        reads.length = 9 := by
      decide +kernel
    obtain ⟨right, length⟩ := run
    obtain ⟨-, round, -⟩ := found_within_one_round (d := recheck 0x10) (by decide +kernel) []
      (.replicate 10 .measure) (vain 10 0x10)
    obtain ⟨-, -, eight⟩ := round right
    refine ⟨length, eight [] (reads.take 8) (reads.drop 8) ?_ ?_,
      eight (reads.take 1) (reads.drop 1) [] ?_ ?_⟩
    · rw [List.nil_append, List.take_append_drop]
      rfl
    · rw [List.length_take, length]
      rfl
    · rw [List.append_nil, List.take_append_drop]
      rfl
    · rw [List.length_drop, length]
  · let content := fun (p : FaultPlan Sensor) address => (p.inner.register? address).getD 0
    have run : (∀ s ∈ history (.replicate 9 .measure) (recheck 0), ∀ x ∈ s.checks,
          (∀ value ∈ x.found, value = content x.bus x.address) ∧
            content x.bus (Register.checked.get 7) ≠ s.before.watch.shadow.values.get 7) ∧
        8 - passedSince (recheck 0).watch.shadow.cursor 7 ≤
          (successful (checks (history (.replicate 9 .measure) (recheck 0)))).length := by
      decide +kernel
    obtain ⟨misses, enough⟩ := run
    obtain ⟨-, -, -, found⟩ := found_within_one_round (d := recheck 0) (by decide +kernel) []
      (.replicate 9 .measure) (vain 9 0)
    have last := found content 7 fun s member =>
      ⟨fun x check => (misses s member x check).1, fun x check => (misses s member x check).2⟩
    exact last.2 enough

end

end Driver

end InertialSensor
