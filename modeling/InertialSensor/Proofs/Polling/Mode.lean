import InertialSensor.Polling.Instrument
import InertialSensor.Proofs.Driver.Switches
import InertialSensor.Simulation.FaultPlan
import InertialSensor.Simulation.Sensor

/-!
# The polling mode and the sampler

An instrument is in step if its sampler runs exactly when its mode is not the manual one; otherwise
nothing measures for those who read. To set the mode, the interval and the filters are changed first
and the chip's own filter is written after that, so that a write which fails leaves the new mode
behind. `Turn` says all that a change of the mode can do.

A write lost in manual mode thereby puts the instrument out of step until a mode is set with
success, and nothing else does (`in_step_iff_not_stranded`).
-/

namespace InertialSensor

/-! ### Intervals -/

namespace Polling

lemma interval_le {p : Polling} {us : Nat} (asked : p.interval = .ok us) : us ≤ 1000000 := by
  cases p with
  | manual | max | standard =>
    cases asked
    decide
  | external => cases asked
  | hertz hz =>
    simp only [interval] at asked
    split at asked
    · cases asked
    · split at asked
      · cases asked
      · cases asked
        exact Nat.div_le_self _ _

lemma toUInt64_ne_zero {p : Polling} {us : Nat} (asked : p.interval = .ok us)
    (periodic : us ≠ 0) : us.toUInt64 ≠ 0 := by
  intro zero
  have small := interval_le asked
  have zero : us % 2 ^ 64 = 0 := congrArg UInt64.toNat zero
  omega

lemma ofInterval_eq_manual_iff {us : UInt64} : ofInterval us = manual ↔ us = 0 := by
  rw [ofInterval]
  split
  · next zero => exact ⟨fun _ => zero, fun _ => rfl⟩
  · next periodic => exact ⟨nofun, fun zero => absurd zero periodic⟩

end Polling

namespace Driver

variable {σ : Type} [Transport σ]

/-- The state with another interval and with filters designed for it. -/
def retuned (us : UInt64) (d : Driver σ) : Driver σ :=
  { d with
    pollInterval := us
    streams := d.streams.map fun s => s.redesign (1e6 / us.toFloat32) s.cutoff }

/-- The interval and the filters are set whether the chip's own filter is or not. -/
lemma setPollInterval_cases {us : UInt64} (periodic : us ≠ 0) (d : Driver σ) :
    (∃ text bus, setPollInterval us d = (.error (.bus text), { d.retuned us with bus := bus })) ∨
      ∃ d', setPollInterval us d = (.ok (), d') ∧ d'.switches = ⟨us, d.inFactoryTest⟩ := by
  let filter : Nat := wholeHertz d.streams.gyro.cutoff
  have rest : setPollInterval us d = programOnChipFilter filter (d.retuned us) :=
    setPollInterval_of_periodic periodic d
  have left : (programOnChipFilter filter (d.retuned us)).2.switches = ⟨us, d.inFactoryTest⟩ :=
    leaves_switches (programOnChipFilter_leaves filter) (d.retuned us)
  rw [rest]
  cases written : (Transport.write Register.filterConfig (OnChipFilter.forCutoff filter).registerValue
      (d.retuned us).bus).1 with
  | error text =>
    exact .inl ⟨text, _, Routine.bind_of_error _ (writeChecked_of_error written)⟩
  | ok =>
    refine .inr ⟨_, Prod.ext ?_ rfl, left⟩
    rw [programOnChipFilter, Routine.bind_of_ok _ (writeChecked_of_ok written)]
    rfl

end Driver

namespace Instrument

open Driver

variable {σ : Type} [Transport σ] {p : Polling} {i : Instrument σ}

/-! ### Setting the mode -/

lemma setPolling_of_refused {reason : Rejection} (asked : p.interval = .error reason) :
    i.setPolling p = (.error (.invalidArgument reason), i) := by
  rw [setPolling, asked]

lemma setPolling_of_onDemand (asked : p.interval = .ok 0) :
    i.setPolling p = (.ok (), { i.stopSampling with driver.pollInterval := 0 }) := by
  rw [setPolling, asked]
  rfl

section

variable {us : Nat} {d : Driver σ} (asked : p.interval = .ok us) (periodic : us ≠ 0)
include asked periodic

lemma setPolling_of_lost {cause : Failure}
    (lost : setPollInterval us.toUInt64 i.driver = (.error cause, d)) :
    i.setPolling p = (.error cause, { i with driver := d }) := by
  -- an interval of zero has a branch of its own
  obtain ⟨us, rfl⟩ := Nat.exists_eq_succ_of_ne_zero periodic
  rw [setPolling, asked]
  simp only [run, lost]

/-- In a periodic mode the sampler is begun anew, unless it runs already. -/
lemma setPolling_of_set (set : setPollInterval us.toUInt64 i.driver = (.ok (), d)) :
    i.setPolling p =
      (.ok (),
        if i.driver.pollInterval = 0 ∨ ¬ i.sampling then { i with driver := d }.startSampling
        else { i with driver := d }) := by
  obtain ⟨us, rfl⟩ := Nat.exists_eq_succ_of_ne_zero periodic
  rw [setPolling, asked]
  simp only [run, set]

end

/-- The ways to set the polling mode: refused, set to manual, set to periodic, or lost in the write
of the chip's own filter. -/
inductive Turn (p : Polling) (i : Instrument σ) : Except Failure Unit → Instrument σ → Prop where
  | refused {reason : Rejection} (h : p.interval = .error reason) :
      Turn p i (.error (.invalidArgument reason)) i
  | manual {i' : Instrument σ} (asked : p.interval = .ok 0)
      (switches : i'.driver.switches = ⟨0, i.driver.inFactoryTest⟩) (stopped : i'.sampling = false)
      (held : i'.released = i.released) : Turn p i (.ok ()) i'
  | periodic {us : Nat} {i' : Instrument σ} (asked : p.interval = .ok us) (some : us ≠ 0)
      (switches : i'.driver.switches = ⟨us.toUInt64, i.driver.inFactoryTest⟩)
      (running : i'.sampling = true) (held : i'.released = i.released) : Turn p i (.ok ()) i'
  | lost {us : Nat} {text : String} {bus : σ} (asked : p.interval = .ok us) (some : us ≠ 0) :
      Turn p i (.error (.bus text))
        { i with driver := { i.driver.retuned us.toUInt64 with bus := bus } }

/-- What reading depends on, and whether the owner has let the instrument go. -/
def modes (i : Instrument σ) : Switches × Bool × Bool := (i.driver.switches, i.sampling, i.released)

omit [Transport σ] in
lemma modes_stopSampling (i : Instrument σ) :
    i.stopSampling.modes = (i.driver.switches, false, i.released) := by
  unfold stopSampling
  cases running : i.sampling with
  | true => rfl
  | false =>
    rw [if_neg Bool.false_ne_true, modes, running]

omit [Transport σ] in
lemma modes_startSampling (i : Instrument σ) :
    i.startSampling.modes = (i.driver.switches, true, i.released) := by
  have stopped := i.modes_stopSampling
  simp only [modes, Prod.mk.injEq] at stopped
  exact congrArg₂ (fun switches released => (switches, true, released)) stopped.1 stopped.2.2

lemma Turn.of_setPolling (p : Polling) (i : Instrument σ) :
    Turn p i (i.setPolling p).1 (i.setPolling p).2 := by
  cases asked : p.interval with
  | error reason =>
    rw [setPolling_of_refused asked]
    exact .refused asked
  | ok us =>
    by_cases onDemand : us = 0
    · rw [onDemand] at asked
      have stopped := i.modes_stopSampling
      simp only [modes, Prod.mk.injEq] at stopped
      obtain ⟨switches, stopped, held⟩ := stopped
      rw [setPolling_of_onDemand asked]
      refine .manual asked ?_ stopped held
      exact congrArg (Switches.mk 0) (congrArg Switches.inFactoryTest switches)
    · rcases setPollInterval_cases (Polling.toUInt64_ne_zero asked onDemand) i.driver with
        ⟨text, bus, lost⟩ | ⟨d', set, switches⟩
      · rw [setPolling_of_lost asked onDemand lost]
        exact .lost asked onDemand
      · rw [setPolling_of_set asked onDemand set]
        dsimp only
        split
        · have started := modes_startSampling { i with driver := d' }
          simp only [modes, Prod.mk.injEq] at started
          obtain ⟨same, running, held⟩ := started
          exact .periodic asked onDemand (same.trans switches) running held
        · next idle =>
          have running : i.sampling = true := by simpa using (not_or.mp idle).2
          exact .periodic asked onDemand switches running rfl

/-! ### Requests -/

/-- What can be asked of an instrument. -/
inductive Request where
  | setPolling (p : Polling)
  | start
  | stop
  /-- Anything asked of the driver, except to set the interval, which only a mode does. -/
  | operate (op : Operation) (h : op.setsInterval = false)
  | tick
  | awaitWindow (channel : Channel) (ms : Nat)

namespace Request

/-- The mode that is asked for. -/
def mode? : Request → Option Polling
  | setPolling p => some p
  | start => some .standard
  | stop => some .manual
  | _ => none

/-- Carries out one request. -/
def carryOut : Request → Instrument σ → Except Failure Unit × Instrument σ
  | setPolling p, i => i.setPolling p
  | start, i => i.start
  | stop, i => i.stop
  | operate op _, i => ((i.run (perform op)).1.map fun _ => (), (i.run (perform op)).2)
  | tick, i => (.ok (), i.tick)
  | awaitWindow channel ms, i => (.ok (), (i.awaitWindow channel ms).2)

end Request

/-- One request of a run, told by the instrument to which it is made. -/
structure Call (σ : Type) where
  request : Request
  before : Instrument σ

namespace Call

def answer (c : Call σ) : Except Failure Unit := (c.request.carryOut c.before).1

/-- The instrument after the call. -/
def after (c : Call σ) : Instrument σ := (c.request.carryOut c.before).2

/-- A mode was set with success. -/
def takes (c : Call σ) : Bool := c.request.mode?.isSome && c.answer.isOk

/-- A mode was asked for, and the bus failed. -/
def isLost (c : Call σ) : Bool :=
  c.request.mode?.isSome && match c.answer with
    | .error (.bus _) => true
    | _ => false

/-- A mode that was asked for in manual mode was lost. -/
def strands (c : Call σ) : Bool := c.isLost && c.before.polling = .manual

end Call

/-- The calls of a run of requests. -/
def calls : List Request → Instrument σ → List (Call σ)
  | [], _ => []
  | r :: rs, i => ⟨r, i⟩ :: calls rs (r.carryOut i).2

/-- The instrument after a run of requests. -/
def carryOutAll : List Request → Instrument σ → Instrument σ
  | [], i => i
  | r :: rs, i => carryOutAll rs (r.carryOut i).2

/-- Whether a mode is lost is carried on: `b` says so of the calls before. -/
def strandedNext (b : Bool) (c : Call σ) : Bool := if c.takes = true then false else b || c.strands

/-- A mode that was asked for in manual mode was lost, and none was set with success since. -/
def stranded (past : List (Call σ)) : Bool := past.foldl strandedNext false

/-! ### One call -/

/-- The sampler runs exactly if the mode is not the manual one. -/
def InStep (i : Instrument σ) : Prop := i.sampling = true ↔ i.polling ≠ .manual

omit [Transport σ] in
lemma polling_eq_manual_iff : i.polling = .manual ↔ i.driver.switches.pollInterval = 0 :=
  Polling.ofInterval_eq_manual_iff

lemma modes_tick (i : Instrument σ) : i.tick.modes = i.modes := by
  let pause : Routine σ Unit :=
    if i.realTime then Routine.delay (Sampler.period i.driver.pollInterval) else pure ()
  have paused : (pause i.driver).2.switches = i.driver.switches := by
    simp only [pause]
    split
    · exact untouched_switches (delay_leaves _) _
    · rfl
  have measured := (measure_switches (pause i.driver).2).trans paused
  have ticked : i.tick.driver.switches = (measure (pause i.driver).2).2.switches ∧
      i.tick.sampling = i.sampling ∧ i.tick.released = i.released := by
    rw [tick]
    simp only [run]
    generalize (measure _ : Except Failure Cycle × Driver σ) = r
    obtain ⟨_ | _, _⟩ := r
    · exact ⟨rfl, rfl, rfl⟩
    · exact ⟨rfl, rfl, rfl⟩
  obtain ⟨switches, sampling, released⟩ := ticked
  rw [modes, switches, sampling, released, measured, modes]

lemma modes_tickUntilClosed (channel : Channel) (ticks : Nat) (i : Instrument σ) :
    (i.tickUntilClosed channel ticks).2.modes = i.modes := by
  induction ticks generalizing i with
  | zero => rfl
  | succ ticks ih =>
    rw [tickUntilClosed]
    split
    · exact (ih i.tick).trans i.modes_tick
    · exact i.modes_tick

/-- Only a request for a mode works on what reading depends on. -/
lemma modes_carryOut {r : Request} (other : r.mode? = none) (i : Instrument σ)
    (idle : i.driver.inFactoryTest = false) : (r.carryOut i).2.modes = i.modes := by
  cases r with
  | setPolling | start | stop => cases other
  | operate op h =>
    have kept : (perform op i.driver).2.switches = i.driver.switches :=
      perform_switches op h i.driver idle
    exact congrArg (·, i.sampling, i.released) kept
  | tick => exact i.modes_tick
  | awaitWindow channel ms =>
    dsimp only [Request.carryOut, awaitWindow]
    split
    · exact modes_tickUntilClosed channel _ i
    · rfl

/-- A request for a mode sets it, in one of the ways above; what may be noted down after that
changes nothing. -/
lemma Turn.of_carryOut {r : Request} (asked : r.mode? = some p) (i : Instrument σ) :
    Turn p i (r.carryOut i).1 (r.carryOut i).2 := by
  cases r with
  | setPolling => cases asked; exact .of_setPolling _ i
  | stop => cases asked; exact .of_setPolling _ i
  | start =>
    cases asked
    have turn := Turn.of_setPolling .standard i
    simp only [Request.carryOut, Instrument.start]
    generalize i.setPolling .standard = result at turn ⊢
    obtain ⟨answer, i'⟩ := result
    cases turn with
    | refused refused => exact .refused refused
    | manual asked switches stopped held => exact .manual asked switches stopped held
    | periodic asked some switches running held => exact .periodic asked some switches running held
    | lost asked some => exact .lost asked some
  | operate | tick | awaitWindow => cases asked

/-! ### Runs -/

/-- What is known after calls of which `b` says whether they leave a mode lost. -/
structure Tracking (b : Bool) (i : Instrument σ) : Prop where
  idle : i.driver.inFactoryTest = false
  held : i.released = false
  running : i.sampling = true ↔ i.polling ≠ .manual ∧ b = false
  lost : b = true → i.polling ≠ .manual

namespace Tracking

variable {b : Bool}

omit [Transport σ] in
lemma inStep_iff (h : Tracking b i) : i.InStep ↔ b = false := by
  rw [InStep, h.running]
  cases b with
  | false => exact ⟨fun _ => rfl, fun _ => ⟨And.left, fun periodic => ⟨periodic, rfl⟩⟩⟩
  | true => exact ⟨fun both => (both.mpr (h.lost rfl)).2, nofun⟩

omit [Transport σ] in
lemma of_modes {i' : Instrument σ} (h : Tracking b i) (same : i'.modes = i.modes) :
    Tracking b i' := by
  simp only [modes, Prod.mk.injEq] at same
  obtain ⟨switches, sampling, released⟩ := same
  have polling : i'.polling = i.polling :=
    congrArg (fun s : Switches => Polling.ofInterval s.pollInterval) switches
  refine ⟨(congrArg Switches.inFactoryTest switches).trans h.idle, released.trans h.held, ?_, ?_⟩
  · rw [sampling, polling]
    exact h.running
  · rw [polling]
    exact h.lost

lemma call {c : Call σ} (h : Tracking b c.before) : Tracking (strandedNext b c) c.after := by
  cases asked : c.request.mode? with
  | none =>
    have same : strandedNext b c = b := by
      simp [strandedNext, Call.takes, Call.strands, Call.isLost, asked]
    rw [same]
    exact h.of_modes (modes_carryOut asked c.before h.idle)
  | some p =>
    have turn : Turn p c.before c.answer c.after := .of_carryOut asked c.before
    simp only [strandedNext, Call.takes, Call.strands, Call.isLost, asked, Option.isSome_some,
      Bool.true_and]
    generalize c.answer = answer at turn ⊢
    generalize c.after = after at turn ⊢
    cases turn with
    | refused =>
      change Tracking (b || (false && _)) c.before
      rw [Bool.false_and, Bool.or_false]
      exact h
    | manual _ switches stopped held =>
      have mode : after.polling = .manual :=
        polling_eq_manual_iff.mpr (congrArg Switches.pollInterval switches)
      refine ⟨(congrArg Switches.inFactoryTest switches).trans h.idle, held.trans h.held, ?_, nofun⟩
      rw [stopped, mode]
      exact ⟨nofun, fun both => absurd rfl both.1⟩
    | periodic asked some switches running held =>
      have mode : after.polling ≠ .manual := by
        rw [Ne, polling_eq_manual_iff, switches]
        exact Polling.toUInt64_ne_zero asked some
      refine ⟨(congrArg Switches.inFactoryTest switches).trans h.idle, held.trans h.held, ?_, nofun⟩
      exact ⟨fun _ => ⟨mode, rfl⟩, fun _ => running⟩
    | @lost us text bus asked some =>
      have mode : Polling.ofInterval us.toUInt64 ≠ .manual := by
        rw [Ne, Polling.ofInterval_eq_manual_iff]
        exact Polling.toUInt64_ne_zero asked some
      -- in manual mode the sampler was not running, and it still is not
      refine ⟨h.idle, h.held, h.running.trans ?_, fun _ => mode⟩
      change _ ↔ _ ∧ (b || (true && decide (c.before.polling = .manual))) = false
      rw [Bool.true_and, Bool.or_eq_false_iff, decide_eq_false_iff_not]
      exact ⟨fun both => ⟨mode, both.2, both.1⟩, fun both => ⟨both.2.2, both.2.1⟩⟩

lemma run (h : Tracking b i) (rs : List Request) :
    Tracking ((calls rs i).foldl strandedNext b) (carryOutAll rs i) := by
  induction rs generalizing b i with
  | nil => exact h
  | cons r rs ih => exact ih (h.call (c := ⟨r, i⟩))

/-- An instrument is opened in manual mode, and its sampler does not run. -/
lemma of_ofDriver {d : Driver σ} (fresh : d.switches = ⟨0, false⟩)
    (opened : (ofDriver d).1 = .ok i) : Tracking false i := by
  have switches := (leaves_switches initialise_leaves d).trans fresh
  rw [ofDriver] at opened
  generalize initialise d = result at opened switches
  obtain ⟨cause | ⟨⟩, d'⟩ := result
  · cases opened
  · cases opened
    have mode : ({ driver := d' } : Instrument σ).polling = .manual :=
      polling_eq_manual_iff.mpr (congrArg Switches.pollInterval switches)
    refine ⟨congrArg Switches.inFactoryTest switches, rfl, ?_, nofun⟩
    rw [mode]
    exact ⟨nofun, fun both => absurd rfl both.1⟩

lemma of_opened {bus : σ} {clock : Clock} {config : Configuration}
    (opened : (ofDriver (.new bus clock config)).1 = .ok i) : Tracking false i :=
  of_ofDriver rfl opened

end Tracking

/-- The sampler runs exactly in the modes other than the manual one, unless a mode that was asked
for in manual mode was lost on the bus and none was set with success since. A call for a mode that
fails leaves everything as it was, unless it was lost on the bus: then it leaves the interval and
the filters of the mode behind. The front ends set the mode as the owner does. -/
theorem in_step_iff_not_stranded {bus : σ} {clock : Clock} {config : Configuration}
    (opened : (ofDriver (.new bus clock config)).1 = .ok i) (rs : List Request) :
    ((carryOutAll rs i).InStep ↔ stranded (calls rs i) = false) ∧
      (∀ c ∈ calls rs i, ∀ p, c.request.mode? = some p → c.answer.isOk = false →
        (c.isLost = false → c.after = c.before) ∧
          (c.isLost = true → ∃ us bus, p.interval = .ok us ∧ us ≠ 0 ∧ c.after =
            { c.before with driver := { c.before.driver.retuned us.toUInt64 with bus := bus } })) ∧
      ∀ p, (carryOutAll rs i).throughFrontEnd (setPolling p) = (carryOutAll rs i).setPolling p := by
  have tracking := (Tracking.of_opened opened).run rs
  refine ⟨tracking.inStep_iff, fun c _ p asked failed => ?_, fun p => ?_⟩
  · have turn : Turn p c.before c.answer c.after := .of_carryOut asked c.before
    simp only [Call.isLost, asked, Option.isSome_some, Bool.true_and]
    generalize c.answer = answer at turn failed ⊢
    generalize c.after = after at turn ⊢
    cases turn with
    | refused => exact ⟨fun _ => rfl, nofun⟩
    | manual | periodic => cases failed
    | lost asked some => exact ⟨nofun, fun _ => ⟨_, _, asked, some, rfl⟩⟩
  · rw [throughFrontEnd, tracking.held, if_neg Bool.false_ne_true]

/-! ### An instrument over planned faults -/

open Simulation

/-- A driver of a simulated sensor behind planned faults. -/
def driverOver (plan : List Fault) : Driver (FaultPlan Sensor) := .new ⟨.new .internal, plan⟩ .start {}

/-- The instrument that this driver becomes. -/
def openedOver (plan : List Fault) : Instrument (FaultPlan Sensor) :=
  { driver := (initialise (driverOver plan)).2 }

lemma ofDriver_eq_ok {d : Driver σ} (h : (initialise d).1.isOk = true) :
    (ofDriver d).1 = .ok { driver := (initialise d).2 } := by
  rw [ofDriver]
  generalize initialise d = result at h ⊢
  obtain ⟨cause | ⟨⟩, d'⟩ := result
  · cases h
  · rfl

/-- Without faults, the sampler runs in the modes that are set one after the other. -/
theorem in_step_over_no_faults :
    (carryOutAll [.start, .setPolling (.hertz 500)] (openedOver [])).InStep := by
  have opened : (ofDriver (driverOver [])).1 = .ok (openedOver []) :=
    ofDriver_eq_ok (by decide +kernel)
  have kept : stranded (calls [.start, .setPolling (.hertz 500)] (openedOver [])) = false := by
    decide +kernel
  exact (in_step_iff_not_stranded opened [.start, .setPolling (.hertz 500)]).1.mpr kept

/-- The plan in which the first transfer after bring-up fails. -/
def failsAfterBringUp : List Fault := List.replicate 12 .pass ++ [.fail]

/-- A mode whose write is lost is in force all the same, and no sampler runs in it. -/
theorem mode_without_sampler :
    (ofDriver (driverOver failsAfterBringUp)).1 = .ok (openedOver failsAfterBringUp) ∧
      (openedOver failsAfterBringUp).polling = .manual ∧
      ((openedOver failsAfterBringUp).setPolling (.hertz 500)).1.isOk = false ∧
      ((openedOver failsAfterBringUp).setPolling (.hertz 500)).2.polling = .hertz 500 ∧
      ((openedOver failsAfterBringUp).setPolling (.hertz 500)).2.sampling = false :=
  ⟨ofDriver_eq_ok (by decide +kernel), by decide +kernel, by decide +kernel, by decide +kernel,
    by decide +kernel⟩

end Instrument

end InertialSensor
