import InertialSensor.Proofs.Driver.History
import InertialSensor.Proofs.Driver.Switches
import InertialSensor.Simulation.FaultPlan
import InertialSensor.Simulation.Sensor

/-!
# Claimed counts

A transfer claims a number of bytes, and the bus is not to be trusted with it. Routines that fail
for a cause that callers handle, and never because a byte past the end of a buffer was asked for,
are `Contained`; there is a rule for each way to put routines together, and a lemma for each
routine. One operation is not contained: the slow read cuts its block to the bytes claimed before it
writes it out.

What is read counts only if the claim is exact: for a single register, and for the block of a cycle
(`Passage.blockRead?`), all other claims end the read with an error, whatever bytes came along.
-/

namespace InertialSensor

/-- The cause is one that callers handle: no byte past the end of a buffer was asked for. -/
def Failure.InBounds : Failure → Prop
  | .outOfBounds .. => False
  | _ => True

namespace Routine

variable {σ α β : Type}

/-- A routine fails only for causes that callers handle. -/
def Contained (x : Routine σ α) : Prop :=
  ∀ d cause, (x d).1 = .error cause → cause.InBounds

namespace Contained

lemma pure (a : α) : Contained (pure a : Routine σ α) := fun _ _ => nofun

lemma look : Contained (look : Routine σ (Driver σ)) := fun _ _ => nofun

lemma update (f : Driver σ → Driver σ) : Contained (update f) := fun _ _ => nofun

lemma note (e : Event) : Contained (note e : Routine σ Unit) := .update _

lemma delay (us : UInt64) : Contained (delay us : Routine σ Unit) := .update _

lemma tally (f : Stats → Stats) : Contained (tally f : Routine σ Unit) := .update _

lemma fail {cause : Failure} (h : cause.InBounds) : Contained (fail cause : Routine σ α) := by
  rintro d _ ⟨⟩
  exact h

lemma attempt (x : Routine σ α) : Contained (attempt x) := fun _ _ => nofun

lemma bind {x : Routine σ α} {f : α → Routine σ β} (hx : Contained x)
    (hf : ∀ a, Contained (f a)) : Contained (x >>= f) := by
  intro d cause failed
  have first := hx d
  rw [bind_apply] at failed
  generalize x d = r at first failed
  obtain ⟨cause' | a, between⟩ := r
  · cases failed
    exact first cause rfl
  · exact hf a between cause failed

/-- After an attempt, the cause of its failure is handled if the routine is contained. -/
lemma attempt_bind {x : Routine σ α} {f : Except Failure α → Routine σ β} (hx : Contained x)
    (succeeded : ∀ a, Contained (f (.ok a)))
    (failed : ∀ cause, cause.InBounds → Contained (f (.error cause))) :
    Contained (Routine.attempt x >>= f) := by
  intro d cause ends
  rw [bind_apply, attempt_apply] at ends
  have causes := hx d
  cases result : (x d).1 with
  | error cause' =>
    rw [result] at ends
    exact failed cause' (causes cause' result) _ cause ends
  | ok a =>
    rw [result] at ends
    exact succeeded a _ cause ends

end Contained

end Routine

namespace Driver

open Routine

variable {σ : Type} [Transport σ]

/-! ### Register access -/

lemma readInto_contained (n : Nat) (address : UInt8) (speed : Speed) :
    Contained (readInto (σ := σ) n address speed) := by
  intro d cause failed
  rw [readInto_apply] at failed
  cases read : (Transport.read address speed (Vector.replicate n 0) d.bus).1 with
  | error text =>
    rw [read] at failed
    cases failed
    trivial
  | ok reading =>
    rw [read] at failed
    cases failed

lemma readExactly_contained (n : Nat) (address : UInt8) (speed : Speed) :
    Contained (readExactly (σ := σ) n address speed) := by
  refine .bind (readInto_contained n address speed) fun reading => ?_
  split
  · exact .pure _
  · exact .fail trivial

lemma readRegister_contained (address : UInt8) (speed : Speed) :
    Contained (readRegister (σ := σ) address speed) :=
  .bind (readExactly_contained 1 address speed) fun _ => .pure _

lemma writeRaw_contained (address value : UInt8) :
    Contained (writeRaw (σ := σ) address value) := by
  intro d cause failed
  rw [writeRaw_apply] at failed
  cases written : (Transport.write address value d.bus).1 with
  | error text =>
    rw [written] at failed
    cases failed
    trivial
  | ok =>
    rw [written] at failed
    cases failed

lemma writeChecked_contained (address value : UInt8) :
    Contained (writeChecked (σ := σ) address value) :=
  .bind (writeRaw_contained address value) fun _ => .update _

lemma programRate_contained (hz : Nat) : Contained (programRate (σ := σ) hz) :=
  .bind (writeChecked_contained _ _) fun _ => .update _

lemma programOnChipFilter_contained (hz : Nat) : Contained (programOnChipFilter (σ := σ) hz) :=
  .bind (writeChecked_contained _ _) fun _ => .update _

lemma programFullScale_contained (g : Nat) : Contained (programFullScale (σ := σ) g) :=
  .bind (writeChecked_contained _ _) fun _ => .update _

/-! ### Bring-up -/

lemma probe_contained : Contained (probe (σ := σ)) := by
  refine .bind (readRegister_contained _ _) fun found => ?_
  split
  · exact .note _
  · exact .fail trivial

lemma attemptResets_contained (number left : Nat) :
    Contained (attemptResets (σ := σ) number left) := by
  induction left generalizing number with
  | zero => exact .pure _
  | succ left ih =>
    refine .bind (.attempt _) fun result => ?_
    split
    · exact .bind (.note _) fun _ => .pure _
    · exact .bind (.note _) fun _ => .bind (.tally _) fun _ => .bind (.delay _) fun _ => ih _

lemma configure_contained : Contained (configure (σ := σ)) := by
  refine .bind (writeChecked_contained _ _) fun _ => .bind (.delay _) fun _ => .bind .look fun _ => ?_
  refine .bind (programRate_contained _) fun _ => .bind (.delay _) fun _ => .bind .look fun _ => ?_
  refine .bind (programOnChipFilter_contained _) fun _ => .bind (.delay _) fun _ => ?_
  refine .bind (writeChecked_contained _ _) fun _ => .bind (.update _) fun _ => ?_
  refine .bind (.delay _) fun _ => .bind .look fun _ => ?_
  refine .bind (programFullScale_contained _) fun _ => .bind (.delay _) fun _ => ?_
  refine .bind (writeChecked_contained _ _) fun _ => .bind (.delay _) fun _ => ?_
  exact .bind (writeChecked_contained _ _) fun _ => .delay _

lemma reset_contained : Contained (reset (σ := σ)) := by
  refine .bind (attemptResets_contained _ _) fun took => ?_
  split
  · exact .bind configure_contained fun _ => .update _
  · exact .bind (.note _) fun _ => .fail trivial

lemma initialise_contained : Contained (initialise (σ := σ)) :=
  .bind probe_contained fun _ => .bind reset_contained fun _ => .bind .look fun _ => .note _

/-! ### Cycles -/

lemma restoreClock_contained : Contained (restoreClock (σ := σ)) := by
  refine .bind .look fun d => ?_
  split
  · exact .bind (writeRaw_contained _ _) fun _ => .update _
  · exact .pure _

lemma fetchBlock_contained : Contained (fetchBlock (σ := σ)) := by
  refine .attempt_bind (readExactly_contained _ _ _) (fun block => .pure block) fun cause h => ?_
  exact .bind (.tally _) fun _ => .fail h

/-- A verification does not fail at all. -/
lemma verifyRegister_contained : Contained (verifyRegister (σ := σ)) := by
  intro d cause failed
  rw [(Verification.of_verifyRegister d).1] at failed
  cases failed

omit [Transport σ] in
lemma digest_contained (block : Vector UInt8 blockSize) : Contained (digest (σ := σ) block) := by
  intro d cause failed
  have digestion := Digestion.of_digest block d
  rw [failed] at digestion
  generalize (digest block d).2 = after at digestion
  cases digestion with
  | empty => trivial

lemma measure_contained : Contained (measure (σ := σ)) := by
  refine .bind .look fun d => ?_
  split
  · exact .pure _
  · refine .bind restoreClock_contained fun _ => .bind (.tally _) fun _ => ?_
    refine .bind fetchBlock_contained fun block => ?_
    split
    · exact .bind verifyRegister_contained fun _ => digest_contained block
    · exact digest_contained block

/-! ### Reading -/

omit [Transport σ] in
lemma countedTake_contained (c : Channel) (max : Nat) :
    Contained (countedTake (σ := σ) c max) := by
  refine .bind (.tally _) fun _ => .bind (fun _ _ => nofun) fun reports => ?_
  split
  · exact .fail trivial
  · exact .pure _

lemma read_contained (c : Channel) (max : Nat) : Contained (read (σ := σ) c max) := by
  by_cases nothing : max = 0
  · rw [nothing, read_zero]
    exact .fail trivial
  · intro d cause failed
    by_cases onDemand : d.pollInterval = 0
    · rw [read_of_demand c nothing onDemand] at failed
      exact Contained.bind measure_contained (fun _ => countedTake_contained c max) _ cause failed
    · rw [read_of_polled c nothing onDemand] at failed
      exact countedTake_contained c max d cause failed

lemma selfTest_contained (c : Channel) : Contained (selfTest (σ := σ) c) := by
  have sampled : Contained (ensureSampled (σ := σ)) := by
    have verdict : Contained (do
        let d ← look (σ := σ)
        Pure.pure (decide (0 < d.stats.cycles))) := .bind .look fun _ => .pure _
    refine .bind .look fun d => ?_
    split
    · refine .bind (.attempt _) fun result => ?_
      split
      · exact verdict
      · exact .bind (.note _) fun _ => verdict
    · exact verdict
  refine .bind sampled fun yes => ?_
  split
  · refine .bind .look fun d => ?_
    cases c with
    | accel => exact .pure _
    | gyro => exact .pure _
  · exact .pure _

/-! ### Settings -/

lemma setPollInterval_contained (us : UInt64) :
    Contained (setPollInterval (σ := σ) us) := by
  refine .bind (.update _) fun _ => ?_
  split
  · exact .pure _
  · exact .bind (.update _) fun _ => .bind .look fun _ => programOnChipFilter_contained _

lemma setLowPass_contained (c : Channel) (hz : Float32) :
    Contained (setLowPass (σ := σ) c hz) := by
  unfold setLowPass
  split
  · exact .fail trivial
  · refine .bind (programOnChipFilter_contained _) fun _ => .bind .look fun _ => ?_
    exact .bind (.update _) fun _ => .update _

lemma setSampleRate_contained (hz : Nat) : Contained (setSampleRate (σ := σ) hz) :=
  .bind (programRate_contained hz) fun _ => .update _

omit [Transport σ] in
lemma setQueueDepth_contained (c : Channel) (depth : Nat) :
    Contained (setQueueDepth (σ := σ) c depth) := by
  refine .bind .look fun d => ?_
  split
  · exact .update _
  · exact .fail trivial

omit [Transport σ] in
lemma setCalibration_contained (c : Channel) (calibration : Calibration) :
    Contained (setCalibration (σ := σ) c calibration) := by
  unfold setCalibration
  split
  · exact .fail trivial
  · exact .update _

/-! ### Diagnosis -/

lemma readAll_contained (addresses : List UInt8) :
    Contained (readAll (σ := σ) addresses) := by
  induction addresses with
  | nil => exact .pure _
  | cons address rest ih =>
    exact .bind (readRegister_contained _ _) fun _ => .bind ih fun _ => .pure _

lemma summarise_contained : Contained (summarise (σ := σ)) := by
  have found (entries : List (UInt8 × UInt8)) : Contained (findMismatches (σ := σ) entries) := by
    induction entries with
    | nil => exact .pure _
    | cons entry rest ih =>
      refine .bind (.attempt _) fun result => ?_
      split
      · refine .bind ih fun others => ?_
        split
        · exact .pure _
        · exact .pure _
      · exact .bind (.note _) fun _ => ih
  exact .bind .look fun _ => .bind (found _) fun _ => .bind .look fun _ => .pure _

/-- What a slow read comes to: the error of its transfer, a byte past the end asked for, or what a
contained dump of the registers comes to. -/
lemma provokeSlowRead_apply (d : Driver σ) :
    (∃ text,
      (Transport.read Register.interruptStatus .low (Vector.replicate blockSize 0) d.bus).1 =
        .error text ∧ (provokeSlowRead d).1 = .error (.bus text)) ∨
    ∃ reading,
      (Transport.read Register.interruptStatus .low (Vector.replicate blockSize 0) d.bus).1 =
        .ok reading ∧
      if d.logging = true ∧ blockSize < reading.count then
        (provokeSlowRead d).1 = .error (.outOfBounds reading.count blockSize)
      else ∃ between : Driver σ, (provokeSlowRead d).1 = (dumpRegisters between).1 := by
  rw [provokeSlowRead, bind_apply]
  simp only [update_apply]
  rw [bind_apply, attempt_apply, readInto_apply]
  cases (Transport.read Register.interruptStatus .low (Vector.replicate blockSize 0) d.bus).1 with
  | error text => exact .inl ⟨text, rfl, rfl⟩
  | ok reading =>
    refine .inr ⟨reading, rfl, ?_⟩
    simp only [Except.mapError, bind_apply, update_apply, noteSlowBlock, look_apply,
      Bool.and_eq_true, decide_eq_true_eq]
    split
    · rfl
    · exact ⟨_, rfl⟩

/-- A slow read asks for a byte past the end exactly if events are written out and its transfer
claims more than a block. -/
lemma provokeSlowRead_outOfBounds_iff (d : Driver σ) (index size : Nat) :
    (provokeSlowRead d).1 = .error (.outOfBounds index size) ↔
      d.logging = true ∧ size = blockSize ∧ blockSize < index ∧
        ∃ bytes,
          (Transport.read Register.interruptStatus .low (Vector.replicate blockSize 0) d.bus).1 =
            .ok ⟨bytes, index⟩ := by
  rcases provokeSlowRead_apply d with ⟨text, read, ends⟩ | ⟨⟨bytes, count⟩, read, ends⟩
  · rw [read, ends]
    exact ⟨nofun, nofun⟩
  · rw [read]
    split at ends
    next beyond =>
      rw [ends]
      constructor
      · rintro ⟨⟩
        exact ⟨beyond.1, rfl, beyond.2, bytes, rfl⟩
      · rintro ⟨-, rfl, -, _, ⟨⟩⟩
        rfl
    next within =>
      obtain ⟨between, ends⟩ := ends
      rw [ends]
      constructor
      · intro failed
        exact (readAll_contained _ between _ failed).elim
      · rintro ⟨logs, -, above, _, ⟨⟩⟩
        exact (within ⟨logs, above⟩).elim

/-! ### Operations -/

lemma perform_contained (op : Operation) (h : op ≠ .provokeSlowRead) :
    Contained (perform (σ := σ) op) := by
  have answered {α : Type} {x : Routine σ α} {f : α → Answer} (hx : Contained x) :
      Contained (do pure (f (← x)) : Routine σ Answer) := .bind hx fun _ => .pure _
  cases op with
  | initialise => exact answered initialise_contained
  | probe => exact answered probe_contained
  | reset => exact answered reset_contained
  | measure => exact answered measure_contained
  | read c max => exact answered (read_contained c max)
  | selfTest c => exact answered (selfTest_contained c)
  | setPollInterval us => exact answered (setPollInterval_contained us)
  | setLowPass c hz => exact answered (setLowPass_contained c hz)
  | setSampleRate hz => exact answered (setSampleRate_contained hz)
  | setFullScale g => exact answered (programFullScale_contained g)
  | setQueueDepth c depth => exact answered (setQueueDepth_contained c depth)
  | setCalibration c calibration => exact answered (setCalibration_contained c calibration)
  | forgetHistory | setMuted | wait => exact answered (.update _)
  | dumpRegisters => exact answered (readAll_contained _)
  | provokeSlowRead => exact absurd rfl h
  | summarise => exact answered summarise_contained

/-! ### What is used of a transfer -/

/-- What a transfer of `n` bytes is good for: its bytes, if exactly these are claimed. -/
def exactly (n : Nat) : Except String (Reading n) → Except Failure (Vector UInt8 n)
  | .ok reading =>
    if reading.count = n then .ok reading.bytes else .error (.transfer n reading.count)
  | .error text => .error (.bus text)

lemma readExactly_apply (n : Nat) (address : UInt8) (speed : Speed) (d : Driver σ) :
    let read := Transport.read address speed (Vector.replicate n 0) d.bus
    readExactly n address speed d = (exactly n read.1, { d with bus := read.2 }) := by
  refine Prod.ext ?_ (readExactly_state n address speed d)
  rw [readExactly, bind_apply, readInto_apply]
  cases (Transport.read address speed (Vector.replicate n 0) d.bus).1 with
  | error text => rfl
  | ok reading =>
    simp only [Except.mapError, exactly]
    split
    · rfl
    · rfl

lemma readRegister_apply (address : UInt8) (speed : Speed) (d : Driver σ) :
    let read := Transport.read address speed (Vector.replicate 1 0) d.bus
    readRegister address speed d =
      ((exactly 1 read.1).map Vector.head, { d with bus := read.2 }) := by
  intro read
  rw [readRegister, bind_apply, readExactly_apply]
  cases exactly 1 read.1 with
  | error cause => rfl
  | ok bytes => rfl

/-- The state in which a cycle ends that has lost its block. -/
def lostBlock (bus : σ) (d : Driver σ) : Driver σ :=
  { d with
    bus := bus
    stats :=
      { d.stats with cycles := d.stats.cycles + 1, badTransfers := d.stats.badTransfers + 1 } }

/-- Once the clock source needs no restoring, a cycle has its block if the transfer is good for
it. -/
lemma opening_of_restored {d d₁ : Driver σ} {answer : Except String (Reading blockSize)} {bus : σ}
    (restored : restoreClock d = (.ok (), d₁))
    (read : Transport.read Register.interruptStatus .high (Vector.replicate blockSize 0) d₁.bus =
      (answer, bus)) :
    opening d = match exactly blockSize answer with
      | .ok block => (.ok block, { d₁.countedCycle with bus := bus })
      | .error cause => (.error cause, d₁.lostBlock bus) := by
  have counted : Transport.read Register.interruptStatus .high (Vector.replicate blockSize 0)
      d₁.countedCycle.bus = (answer, bus) := read
  rw [opening, bind_of_ok _ restored, bind_of_ok _ (tally_cycle d₁), fetchBlock, bind_apply,
    attempt_apply, readExactly_apply]
  simp only [counted]
  cases exactly blockSize answer with
  | error cause => rfl
  | ok block => rfl

end Driver

namespace Passage

open Driver

variable {σ : Type} [Transport σ]

/-- What the bus answers to a cycle that asks for its block, and the bus after it; a cycle asks
unless it is suspended or cannot restore the clock source. -/
def blockRead? (p : Passage σ) : Option (Except String (Reading blockSize) × σ) :=
  if p.before.isSuspended then none
  else match restoreClock p.before with
    | (.ok (), d) =>
      some (Transport.read Register.interruptStatus .high (Vector.replicate blockSize 0) d.bus)
    | (.error _, _) => none

/-- A cycle that gets no answer does nothing, or ends with an error of the bus. -/
lemma outcome_of_no_answer {p : Passage σ} (none : p.blockRead? = none) :
    p.outcome = .ok .skipped ∨ ∃ text, p.outcome = .error (.bus text) := by
  unfold blockRead? at none
  split at none
  next suspended =>
    left
    rw [outcome, measure_of_suspended suspended]
  next active =>
    right
    have restored := Restoration.of_restoreClock p.before
    rcases result : restoreClock p.before with ⟨cause | ⟨⟩, d⟩
    · rw [result] at restored
      have broken : opening p.before = (.error cause, d) := Routine.bind_of_error _ result
      rw [outcome, measure_of_broken (Bool.eq_false_iff.mpr active) broken]
      cases restored with
      | failed => exact ⟨_, rfl⟩
    · rw [result] at none
      cases none

/-- A cycle that gets an answer digests the block if the answer is good for one, and otherwise ends
with an error and counts one cycle and one bad transfer. -/
lemma outcome_of_answer {p : Passage σ} {answer : Except String (Reading blockSize)} {bus : σ}
    (some : p.blockRead? = some (answer, bus)) :
    (∀ block, exactly blockSize answer = .ok block →
      ∃ d : Driver σ, d.streams = p.before.streams ∧ (p.outcome, p.after) = digest block d) ∧
    ∀ cause, exactly blockSize answer = .error cause →
      p.outcome = .error cause ∧
        p.after =
          { p.before.lostBlock bus with
            watch := { p.before.watch with wakePending := false } } := by
  unfold blockRead? at some
  split at some
  next suspended => cases some
  next active =>
    have active : p.before.isSuspended = false := Bool.eq_false_iff.mpr active
    have restored := Restoration.of_restoreClock p.before
    rcases result : restoreClock p.before with ⟨cause | ⟨⟩, d⟩
    · rw [result] at some
      cases some
    · rw [result] at some restored
      have opened := opening_of_restored result (Option.some_inj.mp some)
      rw [outcome, after]
      refine ⟨fun block good => ?_, fun cause bad => ?_⟩
      · rw [good] at opened
        obtain ⟨d₃, verified, digested⟩ := measure_of_opened active opened
        have streams : d.streams = p.before.streams := by
          cases restored with
          | notDue | done => rfl
        refine ⟨d₃, ?_, digested⟩
        split at verified
        · cases verified with
          | unread | right | reset | repair => exact streams
        · rw [verified]
          exact streams
      · rw [bad] at opened
        rw [measure_of_broken active opened]
        refine ⟨rfl, ?_⟩
        cases restored with
        | notDue notDue =>
          rw [← notDue]
          rfl
        | done => rfl

end Passage

namespace Driver

open Simulation

/-! ### The whole of it -/

/-- Counts that the bus claims and the driver, from every state and whatever the bus does.

An operation asks for a byte past the end of a buffer exactly if it is the slow read, events are
written out, and the slow transfer of the block claims more bytes than a block has; the byte asked
for is then the one claimed last. All other operations, and the slow read with all other claims, end
with an answer or an error for callers to handle.

The read of a single register uses its byte exactly if one byte is claimed, and otherwise ends with
an error. A cycle digests its block exactly if the bytes of a block are claimed; with all other
claims it ends with an error, and leaves everything as it was, up to two counters and what was done
on the bus. After every run no factory test is marked as running. -/
theorem past_end_iff_slow_claim {σ : Type} [Transport σ] :
    (∀ (op : Operation) (d : Driver σ) (index size : Nat),
      (perform op d).1 = .error (.outOfBounds index size) ↔
        op = .provokeSlowRead ∧ d.logging = true ∧ size = blockSize ∧ blockSize < index ∧
          ∃ bytes,
            (Transport.read Register.interruptStatus .low (Vector.replicate blockSize 0) d.bus).1 =
              .ok ⟨bytes, index⟩) ∧
    (∀ (address : UInt8) (speed : Speed) (d : Driver σ),
      let read := Transport.read address speed (Vector.replicate 1 0) d.bus
      readRegister address speed d =
        ((exactly 1 read.1).map Vector.head, { d with bus := read.2 })) ∧
    (∀ p : Passage σ, p.blockRead? = none →
      p.outcome = .ok .skipped ∨ ∃ text, p.outcome = .error (.bus text)) ∧
    (∀ (p : Passage σ) (answer : Except String (Reading blockSize)) (bus : σ),
      p.blockRead? = some (answer, bus) →
        (∀ block, exactly blockSize answer = .ok block →
          ∃ d : Driver σ, d.streams = p.before.streams ∧ (p.outcome, p.after) = digest block d) ∧
        ∀ cause, exactly blockSize answer = .error cause →
          p.outcome = .error cause ∧
            p.after =
              { p.before.lostBlock bus with
                watch := { p.before.watch with wakePending := false } }) ∧
    ∀ (bus : σ) (clock : Clock) (config : Configuration) (logging : Bool) (ops : List Operation),
      (performAll ops { Driver.new bus clock config with logging := logging }).2.inFactoryTest =
        false := by
  refine ⟨fun op d index size => ?_, readRegister_apply, fun _ => Passage.outcome_of_no_answer,
    fun _ _ _ => Passage.outcome_of_answer, fun _ _ _ _ ops => performAll_inFactoryTest ops rfl⟩
  by_cases slow : op = .provokeSlowRead
  · subst slow
    rw [perform, answered_error_iff, provokeSlowRead_outOfBounds_iff]
    exact (and_iff_right rfl).symm
  · refine ⟨fun failed => (perform_contained op slow d _ failed).elim, fun h => ?_⟩
    exact absurd h.1 slow

/-- A sensor that was brought up, and a slow read whose transfer claims one byte more than a block
has. -/
theorem slow_read_past_end :
    let started : Driver (FaultPlan Sensor) :=
      (performAll [.initialise]
        { Driver.new ⟨.new .internal, []⟩ .start {} with logging := true }).2
    (perform .provokeSlowRead { started with bus.plan := [.claim 16] }).1 =
      .error (.outOfBounds 16 blockSize) := by
  rfl

end Driver

end InertialSensor
