import InertialSensor.Proofs.Recovery.Settling
import InertialSensor.Proofs.Recovery.Sweep

/-!
# Recovery converges

From any state after bring-up, and whatever the checked registers hold, a driver over a sensor that
answers every transfer in full sets them right within two rounds of the cursor. The first round ends
at the latest with the one reset that a wrong register can order, and the second one, which starts
at the reset, repairs every other register before the watch trusts the data again.

`Round` says what one cycle does to the registers, and `Converging` in which of the two rounds a run
is, with the number of resets and repairs so far.
-/

namespace InertialSensor.Driver

open Simulation

variable {d d' d'' : Driver (FaultPlan Sensor)} {k : Nat}

/-! ### Stages over a reliable sensor -/

lemma Restoration.eq_ok {result : Except Failure Unit} (restored : Restoration d result d')
    (reliable : d.bus.Reliable) : result = .ok () := by
  cases restored with
  | notDue | done => rfl
  | failed _ failed =>
    have succeeds := reliable.answering.write_checked 0 (d.watch.shadow.values.get 0)
    cases succeeds.symm.trans failed

lemma Fetching.eq_ok {result : Except Failure (Vector UInt8 blockSize)}
    (fetched : Fetching d result d') (reliable : d.bus.Reliable) :
    ∃ block, result = .ok block := by
  cases fetched with
  | @fetched block => exact ⟨block, rfl⟩
  | failed failed =>
    obtain ⟨reading, read, count⟩ := reliable.read_block .high (Vector.replicate blockSize 0)
    have succeeds := readExactly_ok_iff.mpr ⟨reading, read, count, rfl⟩
    cases succeeds.symm.trans failed

lemma readRegister_eq_ok (answering : d.bus.Answering) :
    ∃ found, (readRegister d.watch.shadow.address .high d).1 = .ok found := by
  obtain ⟨reading, read, count⟩ :=
    answering.read_checked d.watch.shadow.cursor .high (Vector.replicate 1 0)
  exact ⟨_, readRegister_ok_iff.mpr ⟨reading, read, count, rfl⟩⟩

/-- A register that is right is found right. -/
lemma Verification.eq_of_right (verified : Verification d d') (answering : d.bus.Answering)
    (right : Right d.watch.shadow.cursor d) :
    d' = { d with
      bus := (Transport.read d.watch.shadow.address .high (Vector.replicate 1 0) d.bus).2
      watch := { d.watch with shadow := d.watch.shadow.advance } } := by
  cases verified with
  | unread log failed =>
    obtain ⟨found, succeeds⟩ := readRegister_eq_ok answering
    cases succeeds.symm.trans failed
  | right => rfl
  | reset log found wrong | repair log found wrong =>
    exact absurd right (not_right_of_readRegister answering.honest found wrong)

/-- A repair makes the register at the cursor right, and keeps the others right. -/
lemma right_of_repair (reliable : d.bus.Reliable) (gentle : d.watch.shadow.cursor ≠ 0)
    (bus : d'.bus = (Transport.write d.watch.shadow.address d.watch.shadow.value
      (Transport.read d.watch.shadow.address .high (Vector.replicate 1 0) d.bus).2).2)
    (values : d'.watch.shadow.values = d.watch.shadow.values) :
    Right d.watch.shadow.cursor d' ∧ ∀ i, Right i d → Right i d' := by
  let between := { d with
    bus := (Transport.read d.watch.shadow.address .high (Vector.replicate 1 0) d.bus).2 }
  have other : Register.checked.get d.watch.shadow.cursor ≠ Register.power :=
    fun same => gentle (Register.checked_eq_power_iff.mp same)
  have setting : IsSetting (Register.checked.get d.watch.shadow.cursor)
      (d.watch.shadow.values.get d.watch.shadow.cursor) := isSetting_of_ne _ other
  have reliable' : between.bus.Reliable := FaultPlan.reliable_invariant.read _ _ _ reliable
  have read (i : Fin 8) (right : Right i d) : Right i between :=
    right.undisturbed (FaultPlan.read_undisturbed ..) rfl
  exact ⟨right_of_repeat (d := between) _ setting (reliable'.answering.write_checked _ _) bus values,
    fun i right => (read i right).repeated _ setting bus values⟩

/-! ### One cycle -/

/-- The ways a cycle can go over a reliable sensor: it is skipped, the register at the cursor is
passed and is right afterwards, or a reset is ordered. -/
inductive Round (d d' : Driver (FaultPlan Sensor)) : Prop where
  | skipped (same : d' = d)
  | passed (fetched : d'.stats.cycles = d.stats.cycles + 1)
      (right : ∀ i, Right i d → Right i d')
      (cursor : d'.watch.shadow.cursor = d.watch.shadow.cursor + 1)
      (verified : Right d.watch.shadow.cursor d')
      (awake : d'.watch.wakePending = false)
      (repaired : d.stats.badRegisters < d'.stats.badRegisters →
        ¬Right d.watch.shadow.cursor d ∧ d.watch.shadow.cursor ≠ 0)
  | reset (fetched : d'.stats.cycles = d.stats.cycles + 1)
      (cursor : d'.watch.shadow.cursor = 0)
      (found : d.stats.badRegisters < d'.stats.badRegisters)
      (asleep : d'.watch.wakePending = true)
      (wrong : ¬Right d.watch.shadow.cursor d)
      (due : d.watch.settling = 0 ∨ d.watch.shadow.cursor = 0 ∧ d.watch.wakePending = false)

lemma Round.of_course {outcome : Except Failure Cycle} (course : Course d outcome d')
    (sound : Sound d) (reliable : d.bus.Reliable) : Round d d' := by
  cases course with
  | skipped => exact .skipped rfl
  | asleep _ restored => cases restored.eq_ok reliable
  | @lost _ d₁ _ _ restored fetched =>
    have reliable₁ : d₁.bus.Reliable :=
      FaultPlan.reliable_invariant.invariant.restoration restored reliable
    obtain ⟨block, impossible⟩ := fetched.eq_ok reliable₁
    cases impossible
  | @digested _ _ d₁ d₂ d₃ _ _ restored fetched verified digested =>
    have prepared := Prepared.of_stages restored fetched sound
    have reliable₂ : d₂.bus.Reliable :=
      FaultPlan.reliable_invariant.prepared restored fetched reliable
    obtain ⟨bad, cycles, -, wake⟩ := digested.rest
    have cursor := prepared.steady.cursor
    have counted : d₂.stats.cycles = d.stats.cycles + 1 := by rw [prepared.stats]
    have unfound : d₂.stats.badRegisters = d.stats.badRegisters := by rw [prepared.stats]
    have awake : d₂.watch.wakePending = false := by rw [prepared.watch]
    have wrongBefore (h : ¬Right d₂.watch.shadow.cursor d₂) : ¬Right d.watch.shadow.cursor d :=
      fun right => h (cursor ▸ prepared.steady.right _ right)
    rw [if_pos sound.verifies] at verified
    cases verified with
    | unread log failed =>
      obtain ⟨found, succeeds⟩ := readRegister_eq_ok reliable₂.answering
      cases succeeds.symm.trans failed
    | right found =>
      have right (i : Fin 8) (h : Right i d₂) : Right i d' :=
        digested.steady.right i (h.undisturbed (FaultPlan.read_undisturbed ..) rfl)
      refine .passed (cycles.trans counted) (fun i h => right i (prepared.steady.right i h)) ?_ ?_
        (wake.trans awake) fun more => absurd more ?_
      · rw [digested.steady.cursor, ← cursor]
        rfl
      · rw [← cursor]
        exact right _ (register?_of_readRegister reliable₂.answering.honest found)
      · rw [bad, ← unfound]
        exact lt_irrefl _
    | reset log found wrong drastic =>
      have wrong := not_right_of_readRegister reliable₂.answering.honest found wrong
      refine .reset (cycles.trans counted) digested.steady.cursor ?_ wake (wrongBefore wrong) ?_
      · rw [bad, ← unfound]
        exact Nat.lt_succ_self _
      · refine drastic.imp (fun trusted => ?_) fun first => ⟨cursor ▸ first, ?_⟩
        · rw [prepared.watch] at trusted
          exact trusted
        · -- a clock source just restored would be right
          by_contra asleep
          refine wrong (first ▸ prepared.restored ?_)
          simpa using asleep
    | repair log found wrong recovering gentle =>
      have wrong := not_right_of_readRegister reliable₂.answering.honest found wrong
      refine .passed (cycles.trans counted) (fun i h => digested.steady.right i ?_) ?_ ?_
        (wake.trans awake) fun _ => ⟨wrongBefore wrong, cursor ▸ gentle⟩
      · exact (right_of_repair reliable₂ gentle (by rfl) (by rfl)).2 i (prepared.steady.right i h)
      · rw [digested.steady.cursor, ← cursor]
        rfl
      · rw [← cursor]
        exact digested.steady.right _ (right_of_repair reliable₂ gentle (by rfl) (by rfl)).1

/-! ### Two rounds -/

/-- How far a run has come, after `fetches` cycles on the bus in which `resets` and `repairs` were
ordered: either no reset was ordered yet, or one was in cycle number `m` and `k` cycles followed. -/
inductive Converging (fetches resets repairs : Nat) (d : Driver (FaultPlan Sensor)) : Prop where
  | first (unreset : resets = 0) (behind : Trailing fetches d) (few : repairs ≤ min fetches 8)
  | second {m k : Nat} (once : resets = 1) (total : fetches = m + k) (early : m ≤ 8)
      (behind : Trailing k d) (few : repairs + 1 ≤ m + (min k 8 - 1))
      (cursor : k < 8 → d.watch.shadow.cursor.val = k)
      (asleep : k = 0 → d.watch.wakePending = true)
      (settling : k < 8 → Integrity.settleCount ≤ d.watch.settling + k + 1)

namespace Converging

variable {fetches resets repairs : Nat}

/-- As long as a register is wrong, fewer than sixteen cycles were on the bus. -/
lemma fetches_lt (h : Converging fetches resets repairs d) (wrong : ¬Configured d) :
    fetches < 16 := by
  cases h with
  | first _ behind =>
    have := behind.lt_eight wrong
    omega
  | second _ total early behind =>
    have := behind.lt_eight wrong
    omega

/-- There is at most one reset, and at most fourteen repairs. -/
lemma bounded (h : Converging fetches resets repairs d) : resets ≤ 1 ∧ repairs ≤ 14 := by
  cases h with
  | first => omega
  | second => omega

lemma quiet (h : Converging fetches resets repairs d) (quiet : Quiet False d d') :
    Converging fetches resets repairs d' := by
  have watch := quiet.idle.watch
  cases h with
  | first unreset behind few => exact .first unreset (behind.steady quiet.steady) few
  | second once total early behind few cursor asleep settling =>
    refine .second once total early (behind.steady quiet.steady) few ?_ ?_ ?_
    · rw [quiet.steady.cursor]
      exact cursor
    · rw [watch]
      exact asleep
    · rw [watch]
      exact settling

/-- A cycle that passes a register. -/
lemma passed {withheld made found : Bool} (h : Converging fetches resets repairs d)
    (account : Account withheld made d d') (right : ∀ i, Right i d → Right i d')
    (cursor : d'.watch.shadow.cursor = d.watch.shadow.cursor + 1)
    (verified : Right d.watch.shadow.cursor d')
    (repaired : found = true →
      ¬Right d.watch.shadow.cursor d ∧ d.watch.shadow.cursor ≠ 0) :
    Converging (fetches + 1) resets (repairs + found.toNat) d' := by
  have wrong (again : found = true) : ¬Configured d :=
    fun configured => (repaired again).1 (configured _)
  cases h with
  | first unreset behind few =>
    refine .first unreset (behind.advance right cursor verified) ?_
    cases found with
    | false =>
      rw [Bool.toNat_false]
      omega
    | true =>
      have := behind.lt_eight (wrong rfl)
      rw [Bool.toNat_true]
      omega
  | @second m k once total early behind few place asleep settling =>
    refine .second once (by omega) early (behind.advance right cursor verified) ?_ ?_ nofun ?_
    · cases found with
      | false =>
        rw [Bool.toNat_false]
        omega
      | true =>
        have := behind.lt_eight (wrong rfl)
        have later : k ≠ 0 := by
          rintro rfl
          exact (repaired rfl).2 (Fin.ext (place (by decide)))
        rw [Bool.toNat_true]
        omega
    · intro more
      have place := place (Nat.lt_of_succ_lt more)
      rw [cursor, Fin.val_add_one_of_lt' ?_, place]
      rw [place]
      exact more
    · intro more
      have enough := settling (Nat.lt_of_succ_lt more)
      have most := Bool.toNat_le withheld
      rcases account.settling with ⟨-, down⟩ | ⟨-, anew, -⟩
      · omega
      · omega

/-- The cycle that orders the reset. -/
lemma reset {withheld made : Bool} (h : Converging fetches resets repairs d)
    (account : Account withheld made d d') (cursor : d'.watch.shadow.cursor = 0)
    (found : d.stats.badRegisters < d'.stats.badRegisters)
    (asleep : d'.watch.wakePending = true) (wrong : ¬Right d.watch.shadow.cursor d)
    (due : d.watch.settling = 0 ∨ d.watch.shadow.cursor = 0 ∧ d.watch.wakePending = false) :
    Converging (fetches + 1) (resets + 1) repairs d' := by
  have wrong : ¬Configured d := fun configured => wrong (configured _)
  cases h with
  | first unreset behind few =>
    have := behind.lt_eight wrong
    refine .second (m := fetches + 1) (k := 0) (by rw [unreset]) rfl (by omega) (trailing_zero _)
      (by omega) (fun _ => by rw [cursor]; rfl) (fun _ => asleep) fun _ => ?_
    have most := Bool.toNat_le withheld
    rcases account.settling with ⟨same, -⟩ | ⟨-, anew, -⟩
    · exact absurd same found.ne'
    · omega
  | @second m k once total early behind few place asleep settling =>
    -- the second round withholds data until it is over, and starts at a restored clock source
    have within := behind.lt_eight wrong
    have withheld := settling within
    have count : Integrity.settleCount = 20 := rfl
    rcases due with trusted | ⟨first, awake⟩
    · omega
    · have start : k = 0 := by rw [← place within, first]; rfl
      rw [asleep start] at awake
      cases awake

/-- What a cycle does, as told by the counts of its passage. -/
lemma cycle {p : Passage (FaultPlan Sensor)} (h : Converging fetches resets repairs p.before)
    (sound : Sound p.before) (reliable : p.before.bus.Reliable) :
    Converging (fetches + p.fetches.toNat) (resets + p.ordersReset.toNat)
        (repairs + p.ordersRepair.toNat) p.after ∧
      (p.findsMismatch = true → fetches < 16) := by
  have course : Course p.before p.outcome p.after := Course.of_measure p.before
  have account : Account p.settles p.samples p.before p.after := course.account
  cases Round.of_course course sound reliable with
  | skipped same =>
    have unfetched : p.fetches = false := by simp [Passage.fetches, same]
    have unfound : p.findsMismatch = false := by simp [Passage.findsMismatch, same]
    simp only [Passage.ordersReset, Passage.ordersRepair, unfetched, unfound, same]
    exact ⟨h, nofun⟩
  | passed fetched right cursor verified awake repaired =>
    have fetches : p.fetches = true := by simp [Passage.fetches, fetched]
    have repaired' (found : p.findsMismatch = true) := repaired (of_decide_eq_true found)
    simp only [Passage.ordersReset, Passage.ordersRepair, fetches, awake, Bool.and_false,
      Bool.not_false, Bool.and_true]
    refine ⟨h.passed account right cursor verified repaired', fun found => h.fetches_lt ?_⟩
    exact fun configured => (repaired' found).1 (configured _)
  | reset fetched cursor found asleep wrong due =>
    have fetches : p.fetches = true := by simp [Passage.fetches, fetched]
    have mismatch : p.findsMismatch = true := decide_eq_true found
    simp only [Passage.ordersReset, Passage.ordersRepair, fetches, mismatch, asleep]
    refine ⟨h.reset account cursor found asleep wrong due, fun _ => h.fetches_lt ?_⟩
    exact fun configured => wrong (configured _)

lemma step {s : Step (FaultPlan Sensor)} (h : Converging fetches resets repairs s.before)
    (sound : Sound s.before) (reliable : s.before.bus.Reliable)
    (gentle : s.operation.isReset = false) :
    Converging (fetches + s.fetches.toNat) (resets + s.ordersReset.toNat)
        (repairs + s.ordersRepair.toNat) s.after ∧
      (s.findsMismatch = true → fetches < 16) := by
  simp only [Step.fetches, Step.ordersReset, Step.ordersRepair, Step.findsMismatch]
  cases Progress.of_step s with
  | quiet without _ quiet =>
    rw [gentle] at quiet
    rw [without]
    exact ⟨h.quiet (quiet.mono Bool.false_ne_true), fun found => absurd found Bool.false_ne_true⟩
  | reset _ took => simp [Step.resets, gentle] at took
  | cycle within _ first last =>
    rw [within]
    obtain ⟨converging, early⟩ := (h.quiet first).cycle (sound_invariant.quiet first sound)
      (FaultPlan.reliable_invariant.invariant.quiet first reliable)
    exact ⟨converging.quiet last, early⟩

end Converging

/-! ### Runs -/

/-- What is known after the steps `past` of a run without a reset on request. -/
structure Recovering (past : List (Step (FaultPlan Sensor))) (d : Driver (FaultPlan Sensor)) :
    Prop where
  sound : Sound d
  reliable : d.bus.Reliable
  converging : Converging (past.countP Step.fetches) (past.countP Step.ordersReset)
    (past.countP Step.ordersRepair) d
  /-- After two rounds, each good transfer is one less to be withheld. -/
  settled : ∀ early late, past = early ++ late → 16 ≤ early.countP Step.fetches →
    d.watch.settling ≤ Integrity.settleCount - late.countP Step.isGood

namespace Recovering

lemma start (ready : Ready d) (reliable : d.bus.Reliable) : Recovering [] d := by
  refine ⟨ready.sound, reliable, .first rfl (trailing_zero d) (Nat.zero_le _), ?_⟩
  intro early late split rounds
  obtain ⟨rfl, -⟩ := List.append_eq_nil_iff.mp split.symm
  cases rounds

variable {past : List (Step (FaultPlan Sensor))} {s : Step (FaultPlan Sensor)}

/-- After two rounds no register is found wrong. -/
lemma right (h : Recovering past s.before) (gentle : s.operation.isReset = false)
    (rounds : 16 ≤ past.countP Step.fetches) : s.findsMismatch = false := by
  by_contra mismatch
  have early := (h.converging.step h.sound h.reliable gentle).2 (by simpa using mismatch)
  exact absurd early rounds.not_gt

lemma configured (h : Recovering past d) (rounds : 16 ≤ past.countP Step.fetches) :
    Configured d := by
  by_contra wrong
  exact absurd (h.converging.fetches_lt wrong) rounds.not_gt

lemma step (h : Recovering past s.before) (gentle : s.operation.isReset = false) :
    Recovering (past ++ [s]) s.after := by
  have sound : Sound s.after := sound_invariant.perform s.operation h.sound
  refine ⟨sound, FaultPlan.reliable_invariant.invariant.perform s.operation h.reliable, ?_, ?_⟩
  · simp only [Step.countP_concat]
    exact (h.converging.step h.sound h.reliable gentle).1
  · intro early late split rounds
    rcases List.eq_nil_or_concat' late with rfl | ⟨late, last, rfl⟩
    · exact sound.settling
    · rw [← List.append_assoc] at split
      obtain ⟨rfl, same⟩ := List.append_inj' split rfl
      cases same
      have before := h.settled early late rfl rounds
      have right := h.right gentle (by rw [List.countP_append]; omega)
      have down := s.settling_of_right (Step.vain_of_gentle gentle) right
      rw [Step.countP_concat]
      cases good : s.isGood with
      | false =>
        rw [Bool.toNat_false]
        omega
      | true =>
        rw [Bool.toNat_true]
        rcases s.settles_or_samples (Step.vain_of_gentle gentle) good with withheld | reported
        · rw [withheld, Bool.toNat_true] at down
          omega
        · have trusted := Step.settling_of_samples reported
          omega

end Recovering

/-- Recovery converges: on a run without a reset on request that starts after bring-up and goes on
over a sensor answering in full, whatever its registers hold, every wrong register is found within
the first sixteen cycles on the bus, at most one of them leads to a reset and at most fourteen to a
repair. After these sixteen cycles all registers are right for ever, and every good transfer after
twenty more makes reports. -/
theorem recovery_converges {ops : List Operation} {past later : List (Step (FaultPlan Sensor))}
    {s : Step (FaultPlan Sensor)} (ready : Ready d) (reliable : d.bus.Reliable)
    (gentle : ∀ op ∈ ops, op.isReset = false) (run : history ops d = past ++ s :: later) :
    (s.findsMismatch = true → past.countP Step.fetches < 16) ∧
      (past ++ [s]).countP Step.ordersReset ≤ 1 ∧
      (past ++ [s]).countP Step.ordersRepair ≤ 14 ∧
      (16 ≤ past.countP Step.fetches → Configured s.before ∧ Configured s.after) ∧
      ∀ early late, past = early ++ late → 16 ≤ early.countP Step.fetches →
        20 ≤ late.countP Step.isGood → s.isGood = true → s.samples = true := by
  have gentle (step : Step (FaultPlan Sensor)) (member : step ∈ history ops d) :
      step.operation.isReset = false := gentle step.operation (operation_mem member)
  rw [run] at gentle
  have before : Recovering past s.before :=
    history_keeps (I := Recovering) run (.start ready reliable) fun past step member h =>
      h.step (gentle step (List.mem_append_left _ member))
  have gentle : s.operation.isReset = false :=
    gentle s (List.mem_append_right _ List.mem_cons_self)
  have after := before.step gentle
  obtain ⟨resets, repairs⟩ := after.converging.bounded
  refine ⟨(before.converging.step before.sound before.reliable gentle).2, resets, repairs,
    fun rounds => ⟨before.configured rounds, after.configured ?_⟩, ?_⟩
  · rw [Step.countP_concat]
    omega
  · intro early late split rounds many good
    have trusted := before.settled early late split rounds
    have right := before.right gentle (by rw [split, List.countP_append]; omega)
    have down := s.settling_of_right (Step.vain_of_gentle gentle) right
    rcases s.settles_or_samples (Step.vain_of_gentle gentle) good with withheld | reported
    · have count : Integrity.settleCount = 20 := rfl
      rw [withheld, Bool.toNat_true] at down
      omega
    · exact reported

/-- A sensor that fell back to its content after power-on, behind a driver that brought it up. -/
def forgetful : Driver (FaultPlan Sensor) := broughtUp.withBus ⟨.new .internal, []⟩

/-- The last of forty-one cycles, with pauses between them, over a forgetful sensor. Six of the
first sixteen find a register wrong, and the last one makes reports. -/
theorem recovery_converges_forgetful :
    let ops := (List.replicate 40 [Operation.measure, .wait 10000]).flatten
    let past := history ops forgetful
    let s : Step (FaultPlan Sensor) := ⟨.measure, (performAll ops forgetful).2⟩
    (16 ≤ past.countP Step.fetches ∧ 6 ≤ past.countP Step.findsMismatch ∧ s.samples = true) ∧
      s.findsMismatch = false ∧
      (past ++ [s]).countP Step.ordersReset ≤ 1 ∧
      (past ++ [s]).countP Step.ordersRepair ≤ 14 ∧
      (Configured s.before ∧ Configured s.after) ∧
      ∀ early late, past = early ++ late → 16 ≤ early.countP Step.fetches →
        20 ≤ late.countP Step.isGood → s.isGood = true → s.samples = true := by
  intro ops past s
  have first : (past.take 32).countP Step.fetches = 16 ∧
      (past.take 32).countP Step.findsMismatch = 6 := by
    decide +kernel
  obtain ⟨fetches, mismatches⟩ := first
  have among (p : Step (FaultPlan Sensor) → Bool) : (past.take 32).countP p ≤ past.countP p :=
    (List.take_sublist 32 past).countP_le
  have enough : 16 ≤ past.countP Step.fetches := fetches.ge.trans (among _)
  have gentle : ∀ op ∈ ops ++ [.measure], op.isReset = false := by decide
  obtain ⟨found, resets, repairs, configured, settled⟩ :=
    recovery_converges (ready_broughtUp _) ⟨rfl, rfl, rfl⟩ gentle
      (history_append_cons ops .measure [] forgetful)
  refine ⟨⟨enough, mismatches.ge.trans (among _), by decide +kernel⟩, ?_, resets, repairs,
    configured enough, settled⟩
  exact Bool.eq_false_iff.mpr fun mismatch => (found mismatch).not_ge enough

end InertialSensor.Driver
