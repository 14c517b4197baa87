import InertialSensor.Proofs.Signal.Backlogs

/-!
# Conservation of cycles and reports

Every cycle that goes to the bus ends as a repeat, a good transfer or a bad one, and every report
that a cycle makes is delivered, overwritten, discarded or still unread. A failed verification is
counted as a bad transfer beside the one of its cycle, so the number of failed verifications stands
between the count of cycles and those of their ends.

That number, and the number of recoveries ordered, are told by what the register due answers
(`inspection`), not by what the driver counts. `Reckoning` is the account of the counters;
reckonings add up along a run.
-/

namespace InertialSensor

/-! ### Reckonings -/

/-- The number of repeats, good transfers and bad transfers. -/
def Stats.ends (s : Stats) : Nat := s.duplicates + s.goodTransfers + s.badTransfers

/-- No counter went down. -/
structure Stats.Rises (s s' : Stats) : Prop where
  cycles : s.cycles ≤ s'.cycles
  reads : ∀ c, s.reads.get c ≤ s'.reads.get c
  badTransfers : s.badTransfers ≤ s'.badTransfers
  badRegisters : s.badRegisters ≤ s'.badRegisters
  goodTransfers : s.goodTransfers ≤ s'.goodTransfers
  resetRetries : s.resetRetries ≤ s'.resetRetries
  duplicates : s.duplicates ≤ s'.duplicates

/-- What happened to the counters in a change of the state, given the numbers of verifications that
failed, recoveries that were ordered, samples that were withheld and samples that were accepted. -/
structure Reckoning (failed ordered settled sampled : Nat) (s s' : Stats) : Prop where
  ends : s'.cycles + failed + s.ends = s.cycles + s'.ends
  bad : s.badTransfers + failed ≤ s'.badTransfers
  good : s'.goodTransfers = s.goodTransfers + settled + sampled
  registers : s'.badRegisters = s.badRegisters + ordered
  rises : s.Rises s'

lemma Stats.Rises.refl (s : Stats) : s.Rises s :=
  ⟨le_rfl, fun _ => le_rfl, le_rfl, le_rfl, le_rfl, le_rfl, le_rfl⟩

lemma Stats.Rises.trans {s s' s'' : Stats} (h : s.Rises s') (h' : s'.Rises s'') :
    s.Rises s'' where
  cycles := h.cycles.trans h'.cycles
  reads c := (h.reads c).trans (h'.reads c)
  badTransfers := h.badTransfers.trans h'.badTransfers
  badRegisters := h.badRegisters.trans h'.badRegisters
  goodTransfers := h.goodTransfers.trans h'.goodTransfers
  resetRetries := h.resetRetries.trans h'.resetRetries
  duplicates := h.duplicates.trans h'.duplicates

namespace Reckoning

variable {failed ordered settled sampled failed' ordered' settled' sampled' : Nat}
  {s s' s'' : Stats}

lemma refl (s : Stats) : Reckoning 0 0 0 0 s s := ⟨rfl, le_rfl, rfl, rfl, .refl s⟩

lemma trans (h : Reckoning failed ordered settled sampled s s')
    (h' : Reckoning failed' ordered' settled' sampled' s' s'') :
    Reckoning (failed + failed') (ordered + ordered') (settled + settled') (sampled + sampled')
      s s'' where
  ends := by
    have first := h.ends
    have second := h'.ends
    omega
  bad := by
    have first := h.bad
    have second := h'.bad
    omega
  good := by
    rw [h'.good, h.good]
    omega
  registers := by rw [h'.registers, h.registers, Nat.add_assoc]
  rises := h.rises.trans h'.rises

open Driver

variable {σ : Type} {d d' : Driver σ}

lemma of_idle (h : Idle d d') : Reckoning 0 0 0 0 d.stats d'.stats where
  ends := by
    rw [h.stats]
    rfl
  bad := by rw [h.stats]; exact le_rfl
  good := by rw [h.stats]; rfl
  registers := by rw [h.stats]; rfl
  rises := by
    have reads := h.reads
    have retries := h.retries
    rw [h.stats]
    exact ⟨le_rfl, reads, le_rfl, le_rfl, le_rfl, retries, le_rfl⟩

/-- One cycle ends in one way, and a verification that fails in it is counted beside. -/
lemma of_end (lost repeats : Nat) (one : lost + repeats + settled + sampled = 1) :
    Reckoning failed ordered settled sampled s
      { s with
        cycles := s.cycles + 1
        badTransfers := s.badTransfers + failed + lost
        badRegisters := s.badRegisters + ordered
        goodTransfers := s.goodTransfers + settled + sampled
        duplicates := s.duplicates + repeats } where
  ends := by
    simp only [Stats.ends]
    omega
  bad := Nat.le_add_right _ _
  good := rfl
  registers := rfl
  rises :=
    { cycles := Nat.le_add_right _ _
      reads := fun _ => le_rfl
      badTransfers := (Nat.le_add_right _ _).trans (Nat.le_add_right _ _)
      badRegisters := Nat.le_add_right _ _
      goodTransfers := (Nat.le_add_right _ _).trans (Nat.le_add_right _ _)
      resetRetries := le_rfl
      duplicates := Nat.le_add_right _ _ }

/-- A cycle that fetched its block ends as a repeat, a bad transfer or a good one. -/
lemma of_digestion {block : Vector UInt8 blockSize} {outcome : Except Failure Cycle}
    (verified : d.stats =
      { s with
        cycles := s.cycles + 1
        badTransfers := s.badTransfers + failed
        badRegisters := s.badRegisters + ordered })
    (digested : Digestion block d outcome d') :
    Reckoning failed ordered (isSettling outcome).toNat (isSampled outcome).toNat s d'.stats := by
  cases digested with
  | repeated => exact verified ▸ of_end 0 1 rfl
  | empty => exact verified ▸ of_end 1 0 rfl
  | withheld => exact verified ▸ of_end 0 0 rfl
  | accepted => exact verified ▸ of_end 0 0 rfl

end Reckoning

/-- The chip is to be reset. -/
def Integrity.Recovery.isReset : Integrity.Recovery → Bool
  | .reset _ => true
  | .repair .. => false

namespace Driver

open Routine

variable {σ : Type} [Transport σ]

/-! ### Verifications -/

/-- What the register due answers. -/
def inspection (d : Driver σ) : Except Failure UInt8 :=
  (readRegister d.watch.shadow.address .high d).1

/-- What the watch orders on the answer of the register due, if it orders anything. -/
def order? (d : Driver σ) : Option Integrity.Recovery :=
  match d.inspection with
  | .ok found => (d.watch.check found d.now).1
  | .error _ => none

/-- A verification counts a bad transfer exactly if the register does not answer, and a bad register
exactly if a recovery is ordered. -/
lemma Verification.stats_eq {d d' : Driver σ} (verified : Verification d d') :
    d'.stats =
      { d.stats with
        badTransfers := d.stats.badTransfers + (!d.inspection.isOk).toNat
        badRegisters := d.stats.badRegisters + d.order?.isSome.toNat } := by
  cases verified with
  | unread log h => simp [order?, inspection, h, Except.isOk, Except.toBool]
  | right h =>
    simp [order?, inspection, h, Except.isOk, Except.toBool, Integrity.Watch.check_of_eq]
  | reset log h wrong drastic =>
    simp [order?, inspection, h, Except.isOk, Except.toBool,
      Integrity.Watch.check_of_drastic _ wrong drastic]
  | repair log h wrong recovering gentle =>
    simp [order?, inspection, h, Except.isOk, Except.toBool,
      Integrity.Watch.check_of_gentle _ wrong recovering gentle]

/-- A verification that orders a reset leaves the clock source to be restored; one that orders a
repair leaves that as it was. -/
lemma Verification.wakePending_of_order {d d' : Driver σ} (verified : Verification d d')
    {order : Integrity.Recovery} (ordered : d.order? = some order) :
    d'.watch.wakePending = (order.isReset || d.watch.wakePending) := by
  cases verified with
  | unread log h => simp [order?, inspection, h] at ordered
  | right h => simp [order?, inspection, h, Integrity.Watch.check_of_eq] at ordered
  | reset log h wrong drastic =>
    simp only [order?, inspection, h, Integrity.Watch.check_of_drastic _ wrong drastic] at ordered
    cases ordered
    rfl
  | repair log h wrong recovering gentle =>
    simp only [order?, inspection, h,
      Integrity.Watch.check_of_gentle _ wrong recovering gentle] at ordered
    cases ordered
    rfl

/-! ### The opening of a cycle -/

/-- The ways the opening of a cycle can go, as far as counters are concerned: it fails before the
cycle is counted, or loses the data block, or fetches it. -/
inductive Opened (s : Stats) : Except Failure (Vector UInt8 blockSize) → Stats → Prop where
  | asleep {cause : Failure} : Opened s (.error cause) s
  | lost {cause : Failure} :
      Opened s (.error cause)
        { s with cycles := s.cycles + 1, badTransfers := s.badTransfers + 1 }
  | fetched {block : Vector UInt8 blockSize} :
      Opened s (.ok block) { s with cycles := s.cycles + 1 }

lemma Opened.of_opening (d : Driver σ) :
    Opened d.stats (opening d).1 (opening d).2.stats := by
  have opens := Opening.of_opening d
  generalize opening d = r at opens ⊢
  obtain ⟨result, d'⟩ := r
  cases opens with
  | asleep restored => cases restored with | failed => exact .asleep
  | lost restored fetched =>
    have counted := restored.stats_eq
    cases fetched with | failed => exact counted ▸ .lost
  | fetched restored fetched =>
    have counted := restored.stats_eq
    cases fetched with | fetched => exact counted ▸ .fetched

end Driver

/-! ### Cycles -/

namespace Passage

open Driver Routine

variable {σ : Type} [Transport σ]

/-- The state in which the cycle begins to verify a register, if it comes to that. -/
def verifying? (p : Passage σ) : Option (Driver σ) :=
  if p.before.isSuspended = false ∧ p.before.config.verifies = true then
    match opening p.before with
    | (.ok _, d) => some d
    | (.error _, _) => none
  else none

/-- The cycle failed to read the register due. -/
def failsCheck (p : Passage σ) : Bool := p.verifying?.any fun d => !d.inspection.isOk

/-- The recovery that was ordered in the cycle. -/
def order? (p : Passage σ) : Option Integrity.Recovery := p.verifying?.bind Driver.order?

/-- A cycle that comes to verify a register does so once it has its block, and then digests that. -/
lemma verified_of_verifying? {p : Passage σ} {d : Driver σ} (within : p.verifying? = some d) :
    ∃ block, opening p.before = (.ok block, d) ∧ Verification d (verifyRegister d).2 ∧
      Digestion block (verifyRegister d).2 p.outcome p.after := by
  rw [verifying?] at within
  split at within
  · next active =>
    obtain ⟨awake, verifies⟩ := active
    rcases opens : opening p.before with ⟨cause | block, d'⟩
    · rw [opens] at within
      cases within
    · rw [opens] at within
      cases within
      obtain ⟨ends, verified⟩ := Verification.of_verifyRegister d
      have digested : measure p.before = digest block (verifyRegister d).2 := by
        rw [measure_of_active awake, bind_of_ok _ opens, verifies]
        exact bind_of_ok _ (Prod.ext ends rfl)
      rw [outcome, after, digested]
      exact ⟨block, rfl, verified, .of_digest block _⟩
  · cases within

/-- A cycle that verifies no register counts as its outcome says. -/
lemma reckoning_of_unverified {p : Passage σ} (unverified : p.verifying? = none)
    (counted : Reckoning 0 0 (isSettling p.outcome).toNat (isSampled p.outcome).toNat
      p.before.stats p.after.stats) :
    Reckoning p.failsCheck.toNat p.order?.isSome.toNat p.settles.toNat p.samples.toNat
      p.before.stats p.after.stats := by
  rw [failsCheck, order?, unverified]
  exact counted

/-- The account of a cycle. -/
lemma reckoning (p : Passage σ) :
    Reckoning p.failsCheck.toNat p.order?.isSome.toNat p.settles.toNat p.samples.toNat
      p.before.stats p.after.stats := by
  cases suspended : p.before.isSuspended with
  | true =>
    refine reckoning_of_unverified (by simp [verifying?, suspended]) ?_
    rw [outcome, after, measure_of_suspended suspended]
    exact .refl _
  | false =>
    have course := measure_of_active suspended
    have opened := Opened.of_opening p.before
    rcases opening_eq : opening p.before with ⟨cause | block, d⟩
    · rw [bind_of_error _ opening_eq] at course
      rw [opening_eq] at opened
      refine reckoning_of_unverified (by simp [verifying?, opening_eq]) ?_
      rw [outcome, after, course]
      generalize d.stats = stats at opened ⊢
      cases opened with
      | asleep => exact .refl _
      | lost => exact .of_end 1 0 rfl
    · rw [bind_of_ok _ opening_eq] at course
      rw [opening_eq] at opened
      have counted : d.stats = { p.before.stats with cycles := p.before.stats.cycles + 1 } := by
        generalize d.stats = stats at opened ⊢
        cases opened with
        | fetched => rfl
      cases verifies : p.before.config.verifies with
      | false =>
        have unverified : measure p.before = digest block d := by
          rw [course, verifies]
          rfl
        refine reckoning_of_unverified (by simp [verifying?, verifies]) ?_
        rw [outcome, after, unverified]
        exact .of_digestion counted (.of_digest block d)
      | true =>
        have within : p.verifying? = some d := by
          rw [verifying?, if_pos ⟨suspended, verifies⟩, opening_eq]
        obtain ⟨_, -, verified, digested⟩ := verified_of_verifying? within
        rw [failsCheck, Passage.order?, within]
        refine .of_digestion ?_ digested
        rw [verified.stats_eq, counted]
        rfl

/-! ### Orders -/

/-- A register is found wrong exactly if a recovery is ordered. -/
lemma findsMismatch_eq (p : Passage σ) : p.findsMismatch = p.order?.isSome := by
  rw [findsMismatch, p.reckoning.registers]
  cases p.order?.isSome with
  | false => exact decide_eq_false (Nat.lt_irrefl _)
  | true => exact decide_eq_true (Nat.lt_succ_self _)

/-- After a cycle that ordered a recovery, the clock source is to be restored exactly if that was a
reset. -/
lemma wakePending_of_order {p : Passage σ} {order : Integrity.Recovery}
    (ordered : p.order? = some order) : p.after.watch.wakePending = order.isReset := by
  obtain ⟨d, within, ordered⟩ := Option.bind_eq_some_iff.mp ordered
  obtain ⟨block, opens, verified, digested⟩ := verified_of_verifying? within
  have opened := Opening.of_opening p.before
  rw [opens] at opened
  cases opened with
  | fetched restored fetched =>
    obtain ⟨watch, -, -⟩ := fetched.after_restoration restored
    have woken : d.watch.wakePending = false := by rw [watch]
    obtain ⟨-, kept, -⟩ := digested.deadline
    rw [kept, verified.wakePending_of_order ordered, woken, Bool.or_false]

/-- The cycle is said to order a reset exactly if a reset is what was ordered. -/
lemma ordersReset_iff (p : Passage σ) :
    p.ordersReset = true ↔ ∃ deadline, p.order? = some (.reset deadline) := by
  rw [ordersReset, findsMismatch_eq]
  cases ordered : p.order? with
  | none => simp
  | some order =>
    rw [wakePending_of_order ordered]
    cases order with
    | reset | repair => simp [Integrity.Recovery.isReset]

/-- It is said to order a repair exactly if a repair is what was ordered. -/
lemma ordersRepair_iff (p : Passage σ) : p.ordersRepair = true ↔
    ∃ address value deadline, p.order? = some (.repair address value deadline) := by
  rw [ordersRepair, findsMismatch_eq]
  cases ordered : p.order? with
  | none => simp
  | some order =>
    rw [wakePending_of_order ordered]
    cases order with
    | reset | repair => simp [Integrity.Recovery.isReset]

end Passage

namespace Driver

variable {σ : Type} [Transport σ]

/-! ### Steps -/

namespace Step

/-- The cycle within the step failed to read the register due. -/
def failsCheck (s : Step σ) : Bool := s.passage?.any Passage.failsCheck

/-- The recovery that was ordered in the step. -/
def order? (s : Step σ) : Option Integrity.Recovery := s.passage?.bind Passage.order?

/-- A register is found wrong in a step exactly if a recovery is ordered there. -/
lemma findsMismatch_eq (s : Step σ) : s.findsMismatch = s.order?.isSome := by
  rw [findsMismatch, order?]
  cases s.passage? with
  | none => rfl
  | some p => exact p.findsMismatch_eq

/-- The step is said to order a reset exactly if a reset is what was ordered. -/
lemma ordersReset_iff (s : Step σ) :
    s.ordersReset = true ↔ ∃ deadline, s.order? = some (.reset deadline) := by
  rw [ordersReset, order?]
  cases s.passage? with
  | none => simp
  | some p => exact p.ordersReset_iff

/-- It is said to order a repair exactly if a repair is what was ordered. -/
lemma ordersRepair_iff (s : Step σ) : s.ordersRepair = true ↔
    ∃ address value deadline, s.order? = some (.repair address value deadline) := by
  rw [ordersRepair, order?]
  cases s.passage? with
  | none => simp
  | some p => exact p.ordersRepair_iff

/-- The account of a step is that of its cycle. -/
lemma reckoning (s : Step σ) :
    Reckoning s.failsCheck.toNat s.order?.isSome.toNat s.settles.toNat s.samples.toNat
      s.before.stats s.after.stats := by
  cases Progress.of_step s with
  | quiet without _ quiet =>
    simp only [failsCheck, order?, settles, samples, without]
    exact .of_idle quiet.idle
  | @reset between without _ first last =>
    simp only [failsCheck, order?, settles, samples, without]
    have cleared : Reckoning 0 0 0 0 between.stats s.after.stats :=
      .of_idle (d := { between with watch := between.watch.clear }) last.idle
    exact (Reckoning.of_idle first.idle).trans cleared
  | @cycle p within _ first last =>
    simp only [failsCheck, order?, settles, samples, within]
    have counted := ((Reckoning.of_idle first.idle).trans p.reckoning).trans (.of_idle last.idle)
    simp only [Nat.zero_add, Nat.add_zero] at counted
    exact counted

end Step

/-- None of the counters of the driver and of its streams went down. -/
structure Ascends (d d' : Driver σ) : Prop where
  stats : d.stats.Rises d'.stats
  overwritten : ∀ c,
    (d.streams.get c).backlog.overwritten ≤ (d'.streams.get c).backlog.overwritten
  closed : ∀ c, (d.streams.get c).closed ≤ (d'.streams.get c).closed

lemma Step.ascends (s : Step σ) : Ascends s.before s.after where
  stats := s.reckoning.rises
  overwritten c := (s.transit c).overwritten
  closed c := (s.transit c).closed ▸ Nat.le_add_right _ _

/-! ### Runs -/

/-- The account of a run is the sum of those of its steps. -/
lemma reckoning_performAll (ops : List Operation) (d : Driver σ) :
    let steps := history ops d
    Reckoning (steps.countP Step.failsCheck) (steps.countP (·.order?.isSome))
      (steps.countP Step.settles) (steps.countP Step.samples) d.stats
      (performAll ops d).2.stats := by
  induction ops generalizing d with
  | nil => exact .refl _
  | cons op ops ih =>
    have both := (Step.reckoning ⟨op, d⟩).trans (ih (perform op d).2)
    rw [history]
    intro steps
    simp only [steps, Step.countP_cons]
    exact both

omit [Transport σ] in
/-- A new driver has room for reports, and none in its backlogs. -/
lemma backlog_new (bus : σ) (clock : Clock) (config : Configuration) (c : Channel) :
    ((new bus clock config).streams.get c).backlog = .empty config.queueDepth := by
  cases c with
  | accel => rfl
  | gyro => rfl

/-- In every run from a new driver on, whatever is asked and whatever the bus does, the cycles
counted are the repeats, the good transfers and those bad ones that are not failed verifications;
the good transfers are the samples withheld and the samples accepted; the bad registers are the
recoveries ordered. On each stream the samples accepted are the reports delivered, overwritten,
discarded and still unread; delivered and unread reports are in the order in which they were made,
and none is among them twice. No counter ever goes down. -/
theorem cycles_and_reports_conserved (bus : σ) (clock : Clock) (config : Configuration)
    (ops : List Operation) :
    let start := Driver.new bus clock config
    let steps := history ops start
    let final := (performAll ops start).2
    let failed := steps.countP Step.failsCheck
    (failed ≤ final.stats.badTransfers ∧
        final.stats.cycles = final.stats.duplicates + final.stats.goodTransfers +
          (final.stats.badTransfers - failed)) ∧
      final.stats.goodTransfers = steps.countP Step.settles + steps.countP Step.samples ∧
      final.stats.badRegisters = steps.countP (·.order?.isSome) ∧
      (∀ c,
        let delivered := steps.flatMap (Step.delivered c)
        let backlog := (final.streams.get c).backlog
        steps.countP Step.samples =
            delivered.length + backlog.overwritten + (steps.map (Step.discarded c)).sum +
              backlog.size ∧
          (delivered ++ backlog.items).Sublist (reports c steps)) ∧
      ∀ s ∈ steps, Ascends s.before s.after := by
  intro start steps final failed
  have counted : Reckoning failed (steps.countP (·.order?.isSome)) (steps.countP Step.settles)
      (steps.countP Step.samples) {} final.stats := reckoning_performAll ops start
  refine ⟨⟨?_, ?_⟩, ?_, ?_, fun c => ?_, fun s _ => s.ascends⟩
  · have bad := counted.bad
    exact (Nat.le_add_left _ _).trans bad
  · have ends := counted.ends
    have bad := counted.bad
    simp only [Stats.ends] at ends
    omega
  · have good : final.stats.goodTransfers = 0 + _ + _ := counted.good
    rwa [Nat.zero_add] at good
  · have registers : final.stats.badRegisters = 0 + _ := counted.registers
    rwa [Nat.zero_add] at registers
  · have transit := transit_performAll c ops start
    intro delivered backlog
    have fresh : (start.streams.get c).backlog = .empty config.queueDepth := backlog_new ..
    have roomy : 1 ≤ (start.streams.get c).backlog.capacity := by
      rw [fresh]
      exact le_max_left 1 _
    have order := transit.order
    have balance := transit.balance roomy
    rw [fresh] at order balance
    rw [length_reports] at balance
    have spread : 0 + steps.countP Step.samples = backlog.size + backlog.overwritten +
        delivered.length + (steps.map (Step.discarded c)).sum := balance
    refine ⟨?_, order⟩
    omega

end Driver

end InertialSensor
