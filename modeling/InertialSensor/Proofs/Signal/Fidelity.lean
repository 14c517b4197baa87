import InertialSensor.Proofs.Driver.Reports
import InertialSensor.Proofs.Driver.Switches
import InertialSensor.Proofs.Recovery.BringUp
import InertialSensor.Proofs.Recovery.Convergence
import InertialSensor.Proofs.Simulation.Script

/-!
# From the script into the reports

What is pushed to the simulated sensor comes out of the reports word by word. After a bring-up, and
while nothing goes wrong but blocks of zeros and transfers that come back short, a driver stays
`Calm`. Each of its cycles takes at most one sample off the script, and either reports this very
sample or says why not (`Calm.passage`).
-/

namespace InertialSensor

/-! ### Reports of a sample -/

/-- The report is that of a sample: it has the sample's words in the board's frame, where the
negative of the lowest word is the highest, and on the accelerometer's stream its temperature. -/
structure Report.Carries (c : Channel) (s : Sample) (r : Report) : Prop where
  x : r.raw.x = (s.raw c).y
  y : r.raw.y.toInt = min 32767 (-(s.raw c).x.toInt)
  z : r.raw.z = (s.raw c).z
  temperature : r.temperature = s.dieTemperature? c

lemma toInt_boardFrame_y (v : Axes Int16) : (boardFrame v).y.toInt = min 32767 (-v.x.toInt) := by
  simp only [boardFrame]
  split
  · next lowest =>
    rw [lowest]
    decide
  · next other =>
    have lower := v.x.le_toInt
    have upper := v.x.toInt_lt
    have apart : v.x.toInt ≠ -32768 := fun same => other (Int16.toInt_inj.mp same)
    rw [Int16.toInt_neg, Int.bmod_eq_of_le]
    · omega
    · omega
    · omega

namespace Driver

/-- A stream makes of a sample a report that carries it. -/
lemma carries_making {σ : Type} (c : Channel) (sample : Sample) (d : Driver σ) :
    (d.making c sample).1.Carries c sample where
  x := rfl
  y := toInt_boardFrame_y (sample.raw c)
  z := rfl
  temperature := rfl

end Driver

namespace Passage

open Simulation

/-- Both reports of the cycle carry a sample. -/
def Reports (sample : Sample) (p : Passage (FaultPlan Sensor)) : Prop :=
  ∀ c, ∃ r, p.report? c = some r ∧ r.Carries c sample

/-- The cycle says why it dropped a sample: as a repeat, as empty, or because the transfer came back
short. -/
def Drops (p : Passage (FaultPlan Sensor)) : Prop :=
  p.outcome = .ok .duplicate ∨ p.outcome = .error .zeroSample ∨
    p.outcome = .error (.transfer blockSize (blockSize - 1))

end Passage

namespace Driver

open Simulation Routine

variable {d d' : Driver (FaultPlan Sensor)}

/-! ### Calm states -/

/-- Transfers go through, though they may come back short; the registers are right, and no recovery
is in progress. -/
structure Calm (d : Driver (FaultPlan Sensor)) : Prop where
  answering : d.bus.Answering
  configured : Configured d
  trusted : d.watch.settling = 0
  free : d.watch.holdUntil = 0
  awake : d.watch.wakePending = false
  idle : d.inFactoryTest = false

/-- What the sensor is yet to serve. -/
def script (d : Driver (FaultPlan Sensor)) : List Sample := d.bus.inner.script

lemma Calm.countedCycle (h : Calm d) : Calm d.countedCycle :=
  ⟨h.answering, h.configured, h.trusted, h.free, h.awake, h.idle⟩

/-- The block of the next sample is read, or one byte less than that is claimed. -/
lemma readExactly_block (answering : d.bus.Answering) :
    (readExactly blockSize Register.interruptStatus .high d).1 =
      if 0 < d.bus.inner.shortReads then .error (.transfer blockSize (blockSize - 1))
      else .ok (d.bus.inner.nextSample.1.block Register.dataReady) := by
  have short : blockSize - 1 ≠ blockSize := by decide
  have read := congrArg Prod.fst
    (answering.read_eq Register.interruptStatus .high (Vector.replicate blockSize 0))
  rw [Sensor.transport_read, (Sensor.read_block_eq _ _ answering.answers).1] at read
  rw [readExactly_of_ok read]
  by_cases shortened : 0 < d.bus.inner.shortReads
  · simp only [if_pos shortened, if_neg short]
  · simp only [if_neg shortened, if_true]

lemma Calm.fetching {result : Except Failure (Vector UInt8 blockSize)} (h : Calm d)
    (fetched : Fetching d result d') :
    Calm d' ∧ d'.script = d.bus.inner.nextSample.2.script ∧
      (result = .ok (d.bus.inner.nextSample.1.block Register.dataReady) ∨
        result = .error (.transfer blockSize (blockSize - 1))) := by
  have answering := FaultPlan.answering_invariant.read Register.interruptStatus .high
    (Vector.replicate blockSize 0) h.answering
  have right (i : Fin 8) : Right i d' := fetched.steady.right i (h.configured i)
  have left : (Transport.read Register.interruptStatus .high
      (Vector.replicate blockSize 0) d.bus).2.inner.script = d.bus.inner.nextSample.2.script := by
    rw [h.answering.read_eq]
    exact (Sensor.read_block_eq _ _ h.answering.answers).2
  cases fetched with
  | failed failed =>
    refine ⟨⟨answering, right, h.trusted, h.free, h.awake, h.idle⟩, left, .inr ?_⟩
    rw [readExactly_block h.answering] at failed
    split at failed
    · cases failed
      rfl
    · cases failed
  | fetched fetched =>
    refine ⟨⟨answering, right, h.trusted, h.free, h.awake, h.idle⟩, left, .inl ?_⟩
    rw [readExactly_block h.answering] at fetched
    split at fetched
    · cases fetched
    · exact fetched.symm

/-- The register at the cursor is right. -/
lemma Calm.verification (h : Calm d) (verified : Verification d d') :
    Calm d' ∧ d'.script = d.script := by
  rw [verified.eq_of_right h.answering (h.configured _)]
  refine ⟨⟨FaultPlan.answering_invariant.read _ _ _ h.answering, fun i => ?_, h.trusted, h.free,
    h.awake, h.idle⟩, ?_⟩
  · exact (h.configured i).undisturbed (FaultPlan.read_undisturbed ..) rfl
  · rw [h.answering.read_eq]
    exact Sensor.script_read _ _ _ (.inl le_rfl)

lemma Calm.digestion {block : Vector UInt8 blockSize} {outcome : Except Failure Cycle} (h : Calm d)
    (digested : Digestion block d outcome d') : Calm d' ∧ d'.script = d.script := by
  have right (i : Fin 8) : Right i d' := digested.steady.right i (h.configured i)
  cases digested with
  | repeated | empty | accepted =>
    exact ⟨⟨h.answering, right, h.trusted, h.free, h.awake, h.idle⟩, rfl⟩
  | withheld guard recovering => exact absurd h.trusted recovering

/-! ### Cycles -/

/-- What can become of a sample in a cycle: it is dropped as a repeat, as empty or because the
transfer came back short, or it is accepted. -/
inductive Fate (sample : Sample) :
    Except Failure Cycle → Driver (FaultPlan Sensor) → Prop where
  | repeated {d' : Driver (FaultPlan Sensor)} : Fate sample (.ok .duplicate) d'
  | empty {d' : Driver (FaultPlan Sensor)} : Fate sample (.error .zeroSample) d'
  | short {d' : Driver (FaultPlan Sensor)} :
      Fate sample (.error (.transfer blockSize (blockSize - 1))) d'
  | accepted (d : Driver (FaultPlan Sensor)) :
      Fate sample (.ok (.sampled (d.accept sample).1)) (d.accept sample).2

/-- While no data is withheld, this becomes of the sample in a block. -/
lemma Digestion.fate {block : Vector UInt8 blockSize} {outcome : Except Failure Cycle}
    (digested : Digestion block d outcome d') (trusted : d.watch.settling = 0) :
    Fate (Sample.ofBlock block) outcome d' := by
  cases digested with
  | repeated => exact .repeated
  | empty => exact .empty
  | withheld guard recovering => exact absurd trusted recovering
  | accepted guard closed streams temperature published trusted made =>
    have fate : Fate (Sample.ofBlock block) _ _ := .accepted { d with guard := guard }.countedGood
    rw [made] at fate
    exact fate

/-- A cycle from a calm state leads to a calm state, and takes the next sample. -/
lemma Calm.course {outcome : Except Failure Cycle} (h : Calm d) (course : Course d outcome d') :
    Calm d' ∧ d'.script = d.bus.inner.nextSample.2.script ∧
      Fate d.bus.inner.nextSample.1 outcome d' := by
  cases course with
  | skipped suspended =>
    rw [not_suspended_of_free h.free h.idle] at suspended
    cases suspended
  | asleep _ restored =>
    cases restored with
    | failed due => cases h.awake.symm.trans due
  | lost _ restored fetched =>
    cases restored with
    | done due => cases h.awake.symm.trans due
    | notDue =>
      obtain ⟨calm, script, result⟩ := h.countedCycle.fetching fetched
      cases result.resolve_left nofun
      exact ⟨calm, script, .short⟩
  | @digested block _ _ d₂ d₃ _ _ restored fetched verified digested =>
    cases restored with
    | done due => cases h.awake.symm.trans due
    | notDue =>
      obtain ⟨calm₂, script₂, result⟩ := h.countedCycle.fetching fetched
      cases result.resolve_right nofun
      obtain ⟨calm₃, script₃⟩ : Calm d₃ ∧ d₃.script = d₂.script := by
        split at verified
        · exact calm₂.verification verified
        · rw [verified]
          exact ⟨calm₂, rfl⟩
      obtain ⟨calm, script⟩ := calm₃.digestion digested
      have fate := digested.fate calm₃.trusted
      rw [Sample.ofBlock_block] at fate
      exact ⟨calm, script.trans (script₃.trans script₂), fate⟩

/-- A cycle reports the sample served to it, or says why not. -/
lemma reports_or_drops {sample : Sample} {p : Passage (FaultPlan Sensor)}
    (fate : Fate sample p.outcome p.after) :
    if p.samples = true then p.Reports sample else p.Drops := by
  have dropped (drops : p.Drops) (unsampled : p.samples = false) :
      if p.samples = true then p.Reports sample else p.Drops := by
    rwa [unsampled, if_neg Bool.false_ne_true]
  generalize outcome : p.outcome = o at fate
  generalize after : p.after = d' at fate
  cases fate with
  | repeated => exact dropped (.inl outcome) (by rw [Passage.samples, outcome]; rfl)
  | empty => exact dropped (.inr (.inl outcome)) (by rw [Passage.samples, outcome]; rfl)
  | short => exact dropped (.inr (.inr outcome)) (by rw [Passage.samples, outcome]; rfl)
  | accepted d =>
    rw [if_pos (by rw [Passage.samples, outcome]; rfl)]
    intro c
    exact ⟨_, Passage.report?_of_accept outcome after, carries_making c sample d⟩

/-- A cycle from a calm state takes what is due off the script, and reports the sample served to it
unless it says why not. -/
lemma Calm.passage {p : Passage (FaultPlan Sensor)} (h : Calm p.before) :
    Calm p.after ∧ p.before.script = p.before.bus.inner.due ++ p.after.script ∧
      if p.samples = true then p.Reports p.before.bus.inner.nextSample.1 else p.Drops := by
  obtain ⟨calm, script, fate⟩ := h.course (Course.of_measure p.before)
  have taken := Sensor.script_nextSample p.before.bus.inner
  rw [← script] at taken
  exact ⟨calm, taken, reports_or_drops fate⟩

/-! ### Bring-up -/

/-- A silent sensor cannot be brought up. -/
lemma answers_of_probe (success : (probe d).1 = .ok ()) : d.bus.inner.silent = false := by
  by_contra quiet
  have silent : d.bus.inner.silent = true := by simpa using quiet
  obtain ⟨found, d₁, read, -⟩ := bind_eq_ok_iff.mp (Prod.ext success rfl : probe d = (.ok (), _))
  obtain ⟨reading, read, -⟩ := readRegister_ok_iff.mp (congrArg Prod.fst read)
  rcases FaultPlan.read_cases Register.identity .low (Vector.replicate 1 0) d.bus with
    failed | reached
  · rw [failed] at read
    cases read
  · rw [reached, Sensor.transport_read, Sensor.read_of_silent silent] at read
    cases read

/-- A reset that succeeds leaves a calm state, if the sensor answers and no fault is planned. -/
lemma calm_of_reset (took : (reset d).1 = .ok ()) (answering : (reset d).2.bus.Answering)
    (idle : (reset d).2.inFactoryTest = false) : Calm (reset d).2 := by
  have configured := configured_of_reset took
  rcases reset_cases d with ⟨cause, failed, -⟩ | ⟨-, between, -, after⟩
  · cases took.symm.trans failed
  · rw [after] at configured answering idle ⊢
    exact ⟨answering, configured, rfl, rfl, rfl, idle⟩

/-- A bring-up that succeeds, whatever went wrong in it, leaves a calm state if no fault is planned
from then on. -/
lemma calm_of_initialise (idle : d.inFactoryTest = false)
    (success : (perform .initialise d).1.isOk = true)
    (unplanned : (perform .initialise d).2.bus.plan = []) : Calm (perform .initialise d).2 := by
  have idle' := perform_inFactoryTest .initialise d idle
  have answers' (answers : d.bus.inner.silent = false) :=
    (FaultPlan.silent_invariant false).invariant.perform .initialise answers
  have took : initialise d = (.ok (), (perform .initialise d).2) := eq_of_answered success
  obtain ⟨⟨⟩, d₁, probed, rest⟩ := bind_eq_ok_iff.mp took
  obtain ⟨⟨⟩, d₂, done, noted⟩ := bind_eq_ok_iff.mp rest
  have answers := answers' (answers_of_probe (congrArg Prod.fst probed))
  have last : (perform .initialise d).2 = { d₂ with
      log := d₂.log.push
        (.ready d₂.inForce.rate d₂.inForce.fullScale.multiple d₂.inForce.onChipFilter) } :=
    (congrArg Prod.snd noted).symm
  have same : (reset d₁).2 = d₂ := congrArg Prod.snd done
  rw [last] at idle' answers unplanned ⊢
  have calm : Calm d₂ := by
    rw [← same]
    exact calm_of_reset (congrArg Prod.fst done) ⟨same ▸ unplanned, same ▸ answers⟩ (same ▸ idle')
  exact ⟨calm.answering, calm.configured, calm.trusted, calm.free, calm.awake, calm.idle⟩

/-! ### Runs -/

/-- What happens in a run of cycles. -/
inductive Occurrence where
  | measured
  | waited (us : UInt64)
  | pushed (samples : List Sample)
  /-- From now on, a number of reads of the data block deliver zeros. -/
  | zeroed (count : Nat)
  /-- From now on, a number of reads of the data block come back one byte short. -/
  | shortened (count : Nat)

/-- The state after something happened. -/
def occur : Occurrence → Driver (FaultPlan Sensor) → Driver (FaultPlan Sensor)
  | .measured, d => (measure d).2
  | .waited us, d => { d with clock := d.clock.advance us }
  | .pushed samples, d => { d with bus.inner := d.bus.inner.enqueue samples }
  | .zeroed count, d => { d with bus.inner.zeroSamples := count }
  | .shortened count, d => { d with bus.inner.shortReads := count }

/-- The state after all this happened. -/
def occurAll (occurrences : List Occurrence) (d : Driver (FaultPlan Sensor)) :
    Driver (FaultPlan Sensor) :=
  occurrences.foldl (fun d o => occur o d) d

/-- The cycle that starts in a state, if it is a cycle that happens. -/
def Occurrence.passage? : Occurrence → Driver (FaultPlan Sensor) → Option (Passage (FaultPlan Sensor))
  | .measured, d => some ⟨d⟩
  | _, _ => none

/-- The cycles of a run. -/
def passages : List Occurrence → Driver (FaultPlan Sensor) → List (Passage (FaultPlan Sensor))
  | [], _ => []
  | occurrence :: later, d =>
    (occurrence.passage? d).toList ++ passages later (occur occurrence d)

/-- What is pushed to the sensor when something happens. -/
def Occurrence.samples : Occurrence → List Sample
  | .pushed samples => samples
  | _ => []

end Driver

namespace Passage

open Simulation

/-- The samples that the cycle took off the script. -/
def taken (p : Passage (FaultPlan Sensor)) : List Sample :=
  p.before.script.take (p.before.script.length - p.after.script.length)

lemma taken_eq {p : Passage (FaultPlan Sensor)} {due : List Sample}
    (h : p.before.script = due ++ p.after.script) : p.taken = due := by
  rw [taken, h]
  simp

end Passage

namespace Driver

open Simulation Routine

variable {d d' : Driver (FaultPlan Sensor)}

/-- What is on the script and what is pushed is taken by the cycle or still there. -/
lemma Calm.script_occur (h : Calm d) (occurrence : Occurrence) :
    d.script ++ occurrence.samples =
      (occurrence.passage? d).toList.flatMap Passage.taken ++ (occur occurrence d).script := by
  cases occurrence with
  | measured =>
    have taken : d.script = d.bus.inner.due ++ (measure d).2.script :=
      (Calm.passage (p := ⟨d⟩) h).2.1
    have first : Passage.taken ⟨d⟩ = d.bus.inner.due := Passage.taken_eq taken
    simp only [Occurrence.samples, Occurrence.passage?, Option.toList_some, List.flatMap_singleton,
      List.append_nil, first]
    exact taken
  | pushed samples =>
    simp only [Occurrence.passage?, Option.toList_none, List.flatMap_nil, List.nil_append]
    rfl
  | waited | zeroed | shortened =>
    simp only [Occurrence.samples, Occurrence.passage?, Option.toList_none, List.flatMap_nil,
      List.nil_append, List.append_nil]
    rfl

lemma Calm.occur (h : Calm d) (occurrence : Occurrence) :
    Calm (occur occurrence d) := by
  cases occurrence with
  | measured => exact (Calm.passage (p := ⟨d⟩) h).1
  | waited | pushed | zeroed | shortened =>
    exact ⟨⟨h.answering.plan, h.answering.answers⟩, h.configured, h.trusted, h.free, h.awake, h.idle⟩

lemma Calm.occurAll (h : Calm d) (occurrences : List Occurrence) :
    d.script ++ occurrences.flatMap Occurrence.samples =
        (passages occurrences d).flatMap Passage.taken ++ (occurAll occurrences d).script ∧
      ∀ p ∈ passages occurrences d, Calm p.before := by
  induction occurrences generalizing d with
  | nil => exact ⟨List.append_nil _, fun p member => absurd member List.not_mem_nil⟩
  | cons occurrence later ih =>
    obtain ⟨script, calm⟩ := ih (h.occur occurrence)
    constructor
    · rw [List.flatMap_cons, ← List.append_assoc, h.script_occur, List.append_assoc, script,
        passages, List.flatMap_append, List.append_assoc]
      rfl
    · intro p member
      rcases List.mem_append.mp member with first | later
      · cases occurrence with
        | measured =>
          cases List.mem_singleton.mp first
          exact h
        | _ => cases first
      · exact calm p later

/-- Samples reach the reports as they are. After a successful bring-up without planned faults from
then on, let samples be pushed, time go by, zeros and short transfers be injected and cycles be run,
in any order. The samples that the cycles take off the script, one after the other, followed by what
is still on it, are those that were on it followed by those pushed. A cycle takes at most one, and
none while it is to be served zeros. Both reports of a cycle that sampled carry the sample that it
took; a cycle that took a sample and did not report it says that it dropped a repeat, an empty
sample or a short transfer. Reads of single registers take no sample, nor does any read that is
served zeros. -/
theorem samples_reach_reports (idle : d.inFactoryTest = false)
    (success : (perform .initialise d).1.isOk = true)
    (unplanned : (perform .initialise d).2.bus.plan = []) (occurrences : List Occurrence) :
    let start := (perform .initialise d).2
    let cycles := passages occurrences start
    start.script ++ occurrences.flatMap Occurrence.samples =
        cycles.flatMap Passage.taken ++ (occurAll occurrences start).script ∧
      (∀ p ∈ cycles, p.taken.length ≤ 1 ∧
        (0 < p.before.bus.inner.zeroSamples → p.taken = []) ∧
        ∀ sample ∈ p.taken, if p.samples = true then p.Reports sample else p.Drops) ∧
      ∀ (s : Sensor) {n : Nat} (address : UInt8) (speed : Speed) (buffer : Vector UInt8 n),
        n ≤ 1 ∨ 0 < s.zeroSamples → (s.read address speed buffer).2.script = s.script := by
  intro start cycles
  obtain ⟨script, calm⟩ := (calm_of_initialise idle success unplanned).occurAll occurrences
  refine ⟨script, fun p member => ?_, fun s n address speed buffer quiet =>
    Sensor.script_read address speed buffer quiet⟩
  obtain ⟨-, taken, fate⟩ := (calm p member).passage
  rw [Passage.taken_eq taken]
  refine ⟨Sensor.length_due_le _, Sensor.due_of_zeros, fun sample due => ?_⟩
  rwa [Sensor.nextSample_of_due due] at fate

/-- A run with a short transfer and a block of zeros: the first sample is dropped, the second one
saturates in the board's frame. -/
theorem samples_reach_reports_between_faults :
    let tilted : Sample := ⟨⟨1024, 0, 3966⟩, 1634, ⟨7, 8, 9⟩⟩
    let lowest : Sample := ⟨⟨-32768, 5, -6⟩, 1700, ⟨-1, 32767, 2⟩⟩
    let occurrences : List Occurrence := [.pushed [tilted, lowest], .shortened 1, .measured,
      .zeroed 1, .measured, .waited 1000, .measured]
    let cycles := passages occurrences
      (perform .initialise (.new (⟨.new .internal, []⟩ : FaultPlan Sensor) .start {})).2
    cycles.map (fun p => (p.taken, p.samples)) =
        [([tilted], false), ([], false), ([lowest], true)] ∧
      ∀ p ∈ cycles, ∀ sample ∈ p.taken, if p.samples = true then p.Reports sample else p.Drops := by
  intro tilted lowest occurrences cycles
  have unplanned : (perform .initialise
      (.new (⟨.new .internal, []⟩ : FaultPlan Sensor) .start {})).2.bus.plan = [] := by
    decide +kernel
  obtain ⟨-, fates, -⟩ := samples_reach_reports rfl (by decide +kernel) unplanned occurrences
  exact ⟨by decide +kernel, fun p member => (fates p member).2.2⟩

end Driver

end InertialSensor
