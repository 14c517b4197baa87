import InertialSensor.Proofs.Driver.Request

/-!
# The course of a measurement cycle

A cycle restores the clock source if that is due, fetches the data block, verifies one register and
digests the block. For each of these stages a relation says everything that the stage can do, one
constructor for each way it can go; `Course` puts the stages together, and `Course.of_measure` says
that a cycle goes in one of these ways.
-/

namespace InertialSensor

/-- The register that an order writes, and its value. -/
def Integrity.Recovery.command : Integrity.Recovery → UInt8 × UInt8
  | .reset _ => (Register.power, Register.resetBit)
  | .repair address value _ => (address, value)

namespace Driver

open Routine

variable {σ : Type}

/-! ### Counting -/

/-- The state with one more cycle counted. -/
def countedCycle (d : Driver σ) : Driver σ :=
  { d with stats := { d.stats with cycles := d.stats.cycles + 1 } }

lemma tally_cycle (d : Driver σ) :
    tally (fun s => { s with cycles := s.cycles + 1 }) d = (.ok (), d.countedCycle) := rfl

/-- The state with one more good transfer counted. -/
def countedGood (d : Driver σ) : Driver σ :=
  { d with stats := { d.stats with goodTransfers := d.stats.goodTransfers + 1 } }

lemma tally_good (d : Driver σ) :
    tally (fun s => { s with goodTransfers := s.goodTransfers + 1 }) d = (.ok (), d.countedGood) :=
  rfl

/-! ### Digesting the block -/

/-- The ways to digest a block: dropped as a repeat, dropped as empty, withheld, or accepted. -/
inductive Digestion (block : Vector UInt8 blockSize) (d : Driver σ) :
    Except Failure Cycle → Driver σ → Prop where
  | repeated (guard : RepeatGuard) (log : Array Event)
      (examined : d.guard.examine (Sample.accelBytes block) = (true, guard)) :
      Digestion block d (.ok .duplicate)
        { d with
          guard := guard
          stats := { d.stats with duplicates := d.stats.duplicates + 1 }
          log := log }
  | empty (guard : RepeatGuard) (log : Array Event)
      (examined : d.guard.examine (Sample.accelBytes block) = (false, guard))
      (zero : (Sample.ofBlock block).isZero = true) :
      Digestion block d (.error .zeroSample)
        { d with
          guard := guard
          stats := { d.stats with badTransfers := d.stats.badTransfers + 1 }
          log := log }
  | withheld (guard : RepeatGuard) (recovering : d.watch.settling ≠ 0)
      (examined : d.guard.examine (Sample.accelBytes block) = (false, guard))
      (nonzero : ¬(Sample.ofBlock block).isZero = true) :
      Digestion block d (.ok .settling)
        { d with
          guard := guard
          stats := { d.stats with goodTransfers := d.stats.goodTransfers + 1 }
          watch := { d.watch with settling := d.watch.settling - 1 } }
  | accepted (guard : RepeatGuard) (closed : PerChannel Bool) (streams : PerChannel Stream)
      (temperature : Float32) (published : Array Publication) (trusted : d.watch.settling = 0)
      (made : { d with guard := guard }.countedGood.accept (Sample.ofBlock block) =
        (closed,
          { d with
            guard := guard
            stats := { d.stats with goodTransfers := d.stats.goodTransfers + 1 }
            streams := streams
            temperature := temperature
            published := published }))
      (examined : d.guard.examine (Sample.accelBytes block) = (false, guard))
      (nonzero : ¬(Sample.ofBlock block).isZero = true) :
      Digestion block d (.ok (.sampled closed))
        { d with
          guard := guard
          stats := { d.stats with goodTransfers := d.stats.goodTransfers + 1 }
          streams := streams
          temperature := temperature
          published := published }

/-- Publishing a report changes nothing else. -/
lemma publish_eq (c : Channel) (report : Report) (closed : Bool) (d : Driver σ) :
    d.publish c report closed =
      { d with published := (d.publish c report closed).published } := by
  unfold publish
  split <;> rfl

/-- Accepting a sample works on the streams, the temperature and what is published. -/
lemma accept_eq (sample : Sample) (d : Driver σ) :
    (d.accept sample).2 =
      { d with
        streams := (d.accept sample).2.streams
        temperature := (d.accept sample).2.temperature
        published := (d.accept sample).2.published } := by
  simp only [accept]
  rw [publish_eq, publish_eq]

lemma settle_of_trusted {d : Driver σ} (trusted : d.watch.settling = 0) :
    settle d = (.ok false, d) := by
  simp [settle, Integrity.Watch.settle, trusted]

lemma settle_of_recovering {d : Driver σ} (recovering : d.watch.settling ≠ 0) :
    settle d =
      (.ok true, { d with watch := { d.watch with settling := d.watch.settling - 1 } }) := by
  simp [settle, Integrity.Watch.settle, recovering]

lemma Digestion.of_digest (block : Vector UInt8 blockSize) (d : Driver σ) :
    Digestion block d (digest block d).1 (digest block d).2 := by
  rw [digest, bind_apply]
  simp only [examineRepeat]
  rcases examined : d.guard.examine (Sample.accelBytes block) with ⟨isRepeat, guard⟩
  cases isRepeat with
  | true => exact .repeated guard _ examined
  | false =>
    simp only [Bool.false_eq_true, if_false]
    split
    · next zero => exact .empty guard _ examined zero
    · next nonzero =>
      rw [bind_of_ok _ (tally_good _)]
      by_cases trusted : d.watch.settling = 0
      · have settled : settle { d with guard := guard }.countedGood =
            (.ok false, { d with guard := guard }.countedGood) := settle_of_trusted trusted
        rw [bind_of_ok _ settled]
        change Digestion block d (.ok (.sampled (accept (Sample.ofBlock block) _).1))
          (accept (Sample.ofBlock block) { d with guard := guard }.countedGood).2
        rw [accept_eq]
        exact .accepted guard _ _ _ _ trusted (Prod.ext rfl (accept_eq ..)) examined nonzero
      · have settled := settle_of_recovering (d := { d with guard := guard }.countedGood) trusted
        rw [bind_of_ok _ settled]
        exact .withheld guard trusted examined nonzero

/-- Digesting a block neither moves the deadline nor finds a register wrong. -/
lemma Digestion.deadline {block : Vector UInt8 blockSize} {outcome : Except Failure Cycle}
    {d d' : Driver σ} (digested : Digestion block d outcome d') :
    d'.watch.holdUntil = d.watch.holdUntil ∧ d'.watch.wakePending = d.watch.wakePending ∧
      d'.stats.badRegisters = d.stats.badRegisters := by
  cases digested with
  | repeated | empty | withheld | accepted => exact ⟨rfl, rfl, rfl⟩

variable [Transport σ]

/-! ### Restoring the clock source -/

/-- The ways to restore the clock source: with the value that the shadow keeps for the power
register, if that is due. -/
inductive Restoration (d : Driver σ) : Except Failure Unit → Driver σ → Prop where
  | notDue (h : d.watch.wakePending = false) : Restoration d (.ok ()) d
  | failed {text : String} (due : d.watch.wakePending = true)
      (h : (Transport.write Register.power (d.watch.shadow.values.get 0) d.bus).1 = .error text) :
      Restoration d (.error (.bus text))
        { d with bus := (Transport.write Register.power (d.watch.shadow.values.get 0) d.bus).2 }
  | done (due : d.watch.wakePending = true)
      (h : (Transport.write Register.power (d.watch.shadow.values.get 0) d.bus).1 = .ok ()) :
      Restoration d (.ok ())
        { d with
          bus := (Transport.write Register.power (d.watch.shadow.values.get 0) d.bus).2
          watch := { d.watch with wakePending := false } }

/-- After a successful restoration none is due. -/
lemma Restoration.awake {d d' : Driver σ} (restored : Restoration d (.ok ()) d') :
    d'.watch.wakePending = false := by
  cases restored with
  | notDue h => exact h
  | done => rfl

/-- The restoration counts nothing. -/
lemma Restoration.stats_eq {d d' : Driver σ} {result : Except Failure Unit}
    (restored : Restoration d result d') : d'.stats = d.stats := by
  cases restored with
  | notDue | failed | done => rfl

lemma Restoration.of_restoreClock (d : Driver σ) :
    Restoration d (restoreClock d).1 (restoreClock d).2 := by
  have value : (d.watch.shadow.expected? Register.power).getD Register.bestClock
      = d.watch.shadow.values.get 0 := by simp
  rw [restoreClock, bind_apply]
  simp only [look_apply, value]
  cases due : d.watch.wakePending with
  | false => exact .notDue due
  | true =>
    rw [if_pos rfl, bind_apply, writeRaw_apply]
    cases h : (Transport.write Register.power (d.watch.shadow.values.get 0) d.bus).1 with
    | error text => exact .failed due h
    | ok => exact .done due h

/-! ### Fetching the block -/

/-- The ways to fetch the data block. -/
inductive Fetching (d : Driver σ) : Except Failure (Vector UInt8 blockSize) → Driver σ → Prop where
  | failed {cause : Failure}
      (h : (readExactly blockSize Register.interruptStatus .high d).1 = .error cause) :
      Fetching d (.error cause)
        { d with
          bus := (Transport.read Register.interruptStatus .high
            (Vector.replicate blockSize 0) d.bus).2
          stats := { d.stats with badTransfers := d.stats.badTransfers + 1 } }
  | fetched {block : Vector UInt8 blockSize}
      (h : (readExactly blockSize Register.interruptStatus .high d).1 = .ok block) :
      Fetching d (.ok block)
        { d with
          bus := (Transport.read Register.interruptStatus .high
            (Vector.replicate blockSize 0) d.bus).2 }

lemma Fetching.of_fetchBlock (d : Driver σ) :
    Fetching d (fetchBlock d).1 (fetchBlock d).2 := by
  rw [fetchBlock, bind_apply]
  simp only [attempt_apply, readExactly_state]
  cases h : (readExactly blockSize Register.interruptStatus .high d).1 with
  | error cause => exact .failed h
  | ok block => exact .fetched h

/-- Until a register is verified, the clock source is restored and one cycle is counted. -/
lemma Fetching.after_restoration {d d₁ d₂ : Driver σ} {block : Vector UInt8 blockSize}
    (restored : Restoration d (.ok ()) d₁) (fetched : Fetching d₁.countedCycle (.ok block) d₂) :
    d₂.watch = { d.watch with wakePending := false } ∧
      d₂.stats = { d.stats with cycles := d.stats.cycles + 1 } ∧ d₂.now = d.now := by
  cases fetched with
  | fetched =>
    cases restored with
    | notDue notDue => exact ⟨by rw [← notDue]; rfl, rfl, rfl⟩
    | done => exact ⟨rfl, rfl, rfl⟩

/-! ### The opening of a cycle -/

/-- A cycle up to its data block. -/
def opening : Routine σ (Vector UInt8 blockSize) := do
  restoreClock
  tally fun s => { s with cycles := s.cycles + 1 }
  fetchBlock

/-- The ways to open a cycle: the clock source cannot be restored, or the block is lost, or it is
fetched. -/
inductive Opening (d : Driver σ) : Except Failure (Vector UInt8 blockSize) → Driver σ → Prop where
  | asleep {cause : Failure} {d₁ : Driver σ} (restored : Restoration d (.error cause) d₁) :
      Opening d (.error cause) d₁
  | lost {cause : Failure} {d₁ d₂ : Driver σ} (restored : Restoration d (.ok ()) d₁)
      (fetched : Fetching d₁.countedCycle (.error cause) d₂) : Opening d (.error cause) d₂
  | fetched {block : Vector UInt8 blockSize} {d₁ d₂ : Driver σ}
      (restored : Restoration d (.ok ()) d₁)
      (fetched : Fetching d₁.countedCycle (.ok block) d₂) : Opening d (.ok block) d₂

lemma Opening.of_opening (d : Driver σ) : Opening d (opening d).1 (opening d).2 := by
  have restored := Restoration.of_restoreClock d
  rw [opening, bind_apply]
  generalize restoreClock d = r at restored ⊢
  obtain ⟨cause | ⟨⟩, d₁⟩ := r
  · exact .asleep restored
  · have fetched := Fetching.of_fetchBlock d₁.countedCycle
    simp only
    rw [bind_of_ok _ (tally_cycle d₁)]
    generalize fetchBlock d₁.countedCycle = r at fetched ⊢
    obtain ⟨cause | block, d₂⟩ := r
    · exact .lost restored fetched
    · exact .fetched restored fetched

/-! ### Verifying a register -/

/-- The ways to verify the register at the cursor: it cannot be read, it is right, or it is wrong
and a reset or a repair is ordered and attempted. -/
inductive Verification (d : Driver σ) : Driver σ → Prop where
  | unread {cause : Failure} (log : Array Event)
      (h : (readRegister d.watch.shadow.address .high d).1 = .error cause) :
      Verification d
        { d with
          bus := (Transport.read d.watch.shadow.address .high (Vector.replicate 1 0) d.bus).2
          stats := { d.stats with badTransfers := d.stats.badTransfers + 1 }
          log := log }
  | right (h : (readRegister d.watch.shadow.address .high d).1 = .ok d.watch.shadow.value) :
      Verification d
        { d with
          bus := (Transport.read d.watch.shadow.address .high (Vector.replicate 1 0) d.bus).2
          watch := { d.watch with shadow := d.watch.shadow.advance } }
  | reset {found : UInt8} (log : Array Event)
      (h : (readRegister d.watch.shadow.address .high d).1 = .ok found)
      (wrong : found ≠ d.watch.shadow.value)
      (drastic : d.watch.settling = 0 ∨ d.watch.shadow.cursor = 0) :
      Verification d
        { d with
          bus := (Transport.write Register.power Register.resetBit
            (Transport.read d.watch.shadow.address .high (Vector.replicate 1 0) d.bus).2).2
          watch :=
            { shadow := d.watch.shadow.rewind
              settling := Integrity.settleCount
              holdUntil := d.now + Integrity.resetHold
              wakePending := true }
          stats := { d.stats with badRegisters := d.stats.badRegisters + 1 }
          log := log }
  | repair {found : UInt8} (log : Array Event)
      (h : (readRegister d.watch.shadow.address .high d).1 = .ok found)
      (wrong : found ≠ d.watch.shadow.value)
      (recovering : d.watch.settling ≠ 0) (gentle : d.watch.shadow.cursor ≠ 0) :
      Verification d
        { d with
          bus := (Transport.write d.watch.shadow.address d.watch.shadow.value
            (Transport.read d.watch.shadow.address .high (Vector.replicate 1 0) d.bus).2).2
          watch :=
            { d.watch with
              shadow := d.watch.shadow.advance
              settling := Integrity.settleCount
              holdUntil := d.now + Integrity.repairHold }
          stats := { d.stats with badRegisters := d.stats.badRegisters + 1 }
          log := log }

/-- Counting a wrong register and attempting what the watch ordered, as a verification does. -/
def carryOut (address found : UInt8) (order : Integrity.Recovery) : Routine σ Unit := do
  tally fun s => { s with badRegisters := s.badRegisters + 1 }
  match ← attempt (recover address found order) with
  | .ok () => pure ()
  | .error cause => note (.recoveryWriteFailed cause)

/-- Carrying out an order writes one register, and never fails. -/
lemma carryOut_eq (address found : UInt8) (order : Integrity.Recovery) (d : Driver σ) :
    ∃ log, carryOut address found order d =
      (.ok (),
        { d with
          bus := (Transport.write order.command.1 order.command.2 d.bus).2
          stats := { d.stats with badRegisters := d.stats.badRegisters + 1 }
          log := log }) := by
  rw [carryOut]
  simp only [tally, bind_apply, update_apply, attempt_apply]
  cases order with
  | reset deadline =>
    simp only [recover, note, bind_apply, update_apply, writeRaw_apply]
    cases (Transport.write Register.power Register.resetBit d.bus).1 with
    | ok => exact ⟨_, rfl⟩
    | error text => exact ⟨_, rfl⟩
  | repair register value deadline =>
    simp only [recover, note, bind_apply, update_apply, writeRaw_apply]
    cases (Transport.write register value d.bus).1 with
    | ok => exact ⟨_, rfl⟩
    | error text => exact ⟨_, rfl⟩

/-- A verification never ends the cycle, and goes in one of the ways above. -/
lemma Verification.of_verifyRegister (d : Driver σ) :
    (verifyRegister d).1 = .ok () ∧ Verification d (verifyRegister d).2 := by
  rw [verifyRegister, bind_apply]
  simp only [look_apply]
  rw [bind_apply]
  simp only [attempt_apply, readRegister_state]
  cases h : (readRegister d.watch.shadow.address .high d).1 with
  | error cause => exact ⟨rfl, .unread _ h⟩
  | ok found =>
    simp only [bind_apply, look_apply, update_apply]
    by_cases right : found = d.watch.shadow.value
    · rw [Integrity.Watch.check_of_eq _ right]
      subst right
      exact ⟨rfl, .right h⟩
    · by_cases drastic : d.watch.settling = 0 ∨ d.watch.shadow.cursor = 0
      · rw [Integrity.Watch.check_of_drastic _ right drastic]
        obtain ⟨log, done⟩ := carryOut_eq d.watch.shadow.address found
          (.reset (d.now + Integrity.resetHold))
          { d with
            bus := (Transport.read d.watch.shadow.address .high (Vector.replicate 1 0) d.bus).2
            watch :=
              { shadow := d.watch.shadow.rewind
                settling := Integrity.settleCount
                holdUntil := d.now + Integrity.resetHold
                wakePending := true } }
        exact ⟨congrArg Prod.fst done, congrArg Prod.snd done ▸ .reset log h right drastic⟩
      · obtain ⟨recovering, gentle⟩ := not_or.mp drastic
        rw [Integrity.Watch.check_of_gentle _ right recovering gentle]
        obtain ⟨log, done⟩ := carryOut_eq d.watch.shadow.address found
          (.repair d.watch.shadow.address d.watch.shadow.value (d.now + Integrity.repairHold))
          { d with
            bus := (Transport.read d.watch.shadow.address .high (Vector.replicate 1 0) d.bus).2
            watch :=
              { d.watch with
                shadow := d.watch.shadow.advance
                settling := Integrity.settleCount
                holdUntil := d.now + Integrity.repairHold } }
        exact ⟨congrArg Prod.fst done,
          congrArg Prod.snd done ▸ .repair log h right recovering gentle⟩

/-! ### The whole cycle -/

omit [Transport σ] in
/-- While nothing holds transfers and no factory test is running, cycles do their work. -/
lemma not_suspended_of_free {d : Driver σ} (free : d.watch.holdUntil = 0)
    (idle : d.inFactoryTest = false) : d.isSuspended = false := by
  rw [isSuspended, idle, Bool.false_or, Integrity.Watch.isHolding, free]
  exact decide_eq_false UInt64.not_lt_zero

/-- The ways a cycle can go. -/
inductive Course (d : Driver σ) : Except Failure Cycle → Driver σ → Prop where
  | skipped (h : d.isSuspended = true) : Course d (.ok .skipped) d
  | asleep {cause : Failure} {d₁ : Driver σ} (h : d.isSuspended = false)
      (restored : Restoration d (.error cause) d₁) : Course d (.error cause) d₁
  | lost {cause : Failure} {d₁ d₂ : Driver σ} (h : d.isSuspended = false)
      (restored : Restoration d (.ok ()) d₁)
      (fetched : Fetching d₁.countedCycle (.error cause) d₂) : Course d (.error cause) d₂
  | digested {block : Vector UInt8 blockSize} {outcome : Except Failure Cycle}
      {d₁ d₂ d₃ d' : Driver σ} (h : d.isSuspended = false)
      (restored : Restoration d (.ok ()) d₁) (fetched : Fetching d₁.countedCycle (.ok block) d₂)
      (verified : if d.config.verifies = true then Verification d₂ d₃ else d₃ = d₂)
      (digested : Digestion block d₃ outcome d') : Course d outcome d'

/-- While measuring is suspended, cycles are skipped. -/
lemma measure_of_suspended {d : Driver σ} (suspended : d.isSuspended = true) :
    measure d = (.ok .skipped, d) := by
  rw [measure, bind_apply]
  simp only [look_apply, suspended, if_true]
  rfl

/-- A cycle that is not suspended is its opening, the verification and the digestion. -/
lemma measure_of_active {d : Driver σ} (active : d.isSuspended = false) :
    measure d =
      (do
        let block ← opening
        if d.config.verifies then verifyRegister
        digest block) d := by
  rw [measure, bind_apply]
  simp only [look_apply, active, Bool.false_eq_true, if_false, opening, bind_assoc]

/-- A cycle whose opening fails ends with it. -/
lemma measure_of_broken {d d' : Driver σ} {cause : Failure} (active : d.isSuspended = false)
    (broken : opening d = (.error cause, d')) : measure d = (.error cause, d') := by
  rw [measure_of_active active, bind_of_error _ broken]

/-- A cycle that has fetched its block ends with the digestion. -/
lemma measure_of_opened {d d₂ : Driver σ} {block : Vector UInt8 blockSize}
    (active : d.isSuspended = false) (opened : opening d = (.ok block, d₂)) :
    ∃ d₃, (if d.config.verifies = true then Verification d₂ d₃ else d₃ = d₂) ∧
      measure d = digest block d₃ := by
  rw [measure_of_active active, bind_of_ok _ opened]
  cases d.config.verifies with
  | false => exact ⟨d₂, rfl, rfl⟩
  | true =>
    obtain ⟨ends, verified⟩ := Verification.of_verifyRegister d₂
    have done : verifyRegister d₂ = (.ok (), (verifyRegister d₂).2) := Prod.ext ends rfl
    exact ⟨_, verified, bind_of_ok _ done⟩

lemma Course.of_measure (d : Driver σ) : Course d (measure d).1 (measure d).2 := by
  cases suspended : d.isSuspended with
  | true =>
    rw [measure_of_suspended suspended]
    exact .skipped suspended
  | false =>
    have opened := Opening.of_opening d
    rcases result : opening d with ⟨cause | block, d₂⟩
    · rw [measure_of_broken suspended result]
      rw [result] at opened
      cases opened with
      | asleep restored => exact .asleep suspended restored
      | lost restored fetched => exact .lost suspended restored fetched
    · obtain ⟨d₃, verified, digested⟩ := measure_of_opened suspended result
      rw [digested]
      rw [result] at opened
      cases opened with
      | fetched restored fetched =>
        exact .digested suspended restored fetched verified (.of_digest block d₃)

/-- What every stage keeps, a cycle keeps. -/
lemma Course.keeps {I : Driver σ → Prop} {d d' : Driver σ} {outcome : Except Failure Cycle}
    (course : Course d outcome d')
    (restoration : ∀ {d d' result}, Restoration d result d' → I d → I d')
    (counting : ∀ {d}, I d → I d.countedCycle)
    (fetching : ∀ {d d' result}, Fetching d result d' → I d → I d')
    (verification : ∀ {d d'}, Verification d d' → I d → I d')
    (digestion : ∀ {d d' block outcome}, Digestion block d outcome d' → I d → I d')
    (h : I d) : I d' := by
  cases course with
  | skipped => exact h
  | asleep _ restored => exact restoration restored h
  | lost _ restored fetched => exact fetching fetched (counting (restoration restored h))
  | digested _ restored fetched verified digested =>
    have before := fetching fetched (counting (restoration restored h))
    refine digestion digested ?_
    split at verified
    · exact verification verified before
    · exact verified ▸ before

end Driver

end InertialSensor
