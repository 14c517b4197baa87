import InertialSensor.Proofs.Polling.Mode
import InertialSensor.Proofs.Simulation.Registers

/-!
# Requests for a polling mode

On a sensor that answers, a request for a polling mode is refused exactly if the mode is not
supported (`Polling.Unsupported`), and then nothing is changed. Otherwise it is in force at once, in
every state that the instrument can be in: the rate reads back as it was asked for, although it is
kept as a whole number of microseconds, the sampler runs exactly if the mode is not the manual one,
and the chip's filter is set for the cutoff of the gyro.

An instrument is `InUse` after any requests, as long as its sensor answers. What every run of a
driver keeps, an instrument keeps too (`Invariant.carryOut`).
-/

namespace InertialSensor

/-! ### Rates and intervals -/

/-- Dividing twice gives a number back, if its square is not above what is divided. -/
lemma div_div_of_sq_le {n h : Nat} (positive : 0 < h) (small : h * h ≤ n) : n / (n / h) = h := by
  have long : h ≤ n / h := (Nat.le_div_iff_mul_le positive).2 small
  refine Nat.div_eq_of_lt_le (Nat.mul_div_le n h) ?_
  calc n < h * (n / h) + h := Nat.lt_mul_div_succ n positive
    _ ≤ h * (n / h) + n / h := by omega
    _ = (h + 1) * (n / h) := by ring

namespace Polling

/-- The modes that are not supported: sampling on an outside signal, at no rate, or at a rate above
a thousand hertz. -/
inductive Unsupported : Polling → Prop where
  | external : Unsupported external
  | still : Unsupported (hertz 0)
  | fast {hz : Nat} (h : 1000 < hz) : Unsupported (hertz hz)

/-- The mode that is in force after a request that is supported. -/
def granted : Polling → Polling
  | max | standard => hertz 1000
  | p => p

lemma unsupported_hertz_iff {hz : Nat} : Unsupported (hertz hz) ↔ hz = 0 ∨ 1000 < hz := by
  constructor
  · intro h
    cases h with
    | still => exact .inl rfl
    | fast h => exact .inr h
  · rintro (rfl | h)
    · exact .still
    · exact .fast h

/-- The microseconds between cycles are fewer than the least allowed exactly for rates above the
highest. -/
lemma interval_lt_iff {hz : Nat} (positive : 0 < hz) :
    1000000 / hz < 1000000 / maxRate ↔ 1000 < hz := by
  have least : 1000000 / maxRate = 1000 := rfl
  rw [least, Nat.div_lt_iff_lt_mul positive]
  omega

lemma interval_hertz (hz : Nat) : (hertz hz).interval =
    if hz = 0 then .error .zeroPollRate
    else if 1000 < hz then .error (.pollRateAbove hz maxRate)
    else .ok (1000000 / hz) := by
  rw [interval]
  split
  · rfl
  · next some => simp only [interval_lt_iff (Nat.pos_of_ne_zero some)]

/-- A request has no interval exactly if it is not supported. -/
lemma interval_eq_error_iff {p : Polling} :
    (∃ reason, p.interval = .error reason) ↔ Unsupported p := by
  cases p with
  | manual | max | standard => exact ⟨nofun, nofun⟩
  | external => exact ⟨fun _ => .external, fun _ => ⟨_, rfl⟩⟩
  | hertz hz =>
    rw [interval_hertz, unsupported_hertz_iff]
    split_ifs <;> simp_all

lemma ofInterval_of_asked {p : Polling} {us : Nat} (asked : p.interval = .ok us)
    (periodic : us ≠ 0) : ofInterval us.toUInt64 = hertz (1000000 / us) := by
  have few := interval_le asked
  have whole : us.toUInt64.toNat = us := by
    change us % 2 ^ 64 = us
    omega
  rw [ofInterval, if_neg (toUInt64_ne_zero asked periodic), whole]

/-- The interval of a request stands for the mode that is then in force. -/
lemma ofInterval_interval {p : Polling} {us : Nat} (asked : p.interval = .ok us) :
    ofInterval us.toUInt64 = p.granted := by
  cases p with
  | manual | max | standard =>
    cases asked
    rfl
  | external => cases asked
  | hertz hz =>
    have accepted := asked
    rw [interval_hertz] at accepted
    split_ifs at accepted with none fast
    cases accepted
    have some : 0 < hz := Nat.pos_of_ne_zero none
    have periodic : 1000000 / hz ≠ 0 := (Nat.div_pos (by omega) some).ne'
    have small : hz * hz ≤ 1000000 := Nat.mul_le_mul (not_lt.1 fast) (not_lt.1 fast)
    rw [ofInterval_of_asked asked periodic, div_div_of_sq_le some small]
    rfl

lemma interval_eq_zero_iff {p : Polling} : p.interval = .ok 0 ↔ p = manual := by
  constructor
  · intro asked
    cases p with
    | manual => rfl
    | hertz hz =>
      rw [interval_hertz] at asked
      split_ifs at asked with none fast
      have some : 0 < 1000000 / hz := Nat.div_pos (by omega) (Nat.pos_of_ne_zero none)
      exact absurd (Except.ok.inj asked) some.ne'
    | max | standard | external => cases asked
  · rintro rfl
    rfl

end Polling

/-! ### What every run keeps -/

namespace Driver.Invariant

open Routine Instrument

variable {σ : Type} [Transport σ] {I : Driver σ → Prop} (kept : Invariant I) {i : Instrument σ}

include kept

lemma run {α : Type} {x : Routine σ α} (quietly : Quietly True x) (h : I i.driver) :
    I (i.run x).2.driver := kept.quiet (quietly i.driver) h

lemma note (e : Event) (h : I i.driver) : I (i.note e).driver :=
  kept.run (x := Routine.note e) (.note e) h

lemma forgetHistory (h : I i.driver) : I i.forgetHistory.driver :=
  kept.run forgetHistory_quietly h

lemma stopSampling (h : I i.driver) : I i.stopSampling.driver := by
  unfold Instrument.stopSampling
  split
  · exact kept.forgetHistory (kept.note _ h)
  · exact h

lemma startSampling (h : I i.driver) : I i.startSampling.driver :=
  kept.note _ (kept.forgetHistory (kept.stopSampling h))

lemma setPolling (p : Polling) (h : I i.driver) : I (i.setPolling p).2.driver := by
  cases asked : p.interval with
  | error reason =>
    rw [setPolling_of_refused asked]
    exact h
  | ok us =>
    by_cases onDemand : us = 0
    · rw [onDemand] at asked
      rw [setPolling_of_onDemand asked]
      exact kept.run (setPollInterval_quietly 0) (kept.stopSampling h)
    · have tuned := kept.run (setPollInterval_quietly us.toUInt64) h
      rw [Instrument.run] at tuned
      generalize set : setPollInterval us.toUInt64 i.driver = result at tuned
      obtain ⟨cause | ⟨⟩, d⟩ := result
      · rw [setPolling_of_lost asked onDemand set]
        exact tuned
      · rw [setPolling_of_set asked onDemand set]
        dsimp only
        split
        · exact kept.startSampling (i := { i with driver := d }) tuned
        · exact tuned

lemma start (h : I i.driver) : I i.start.2.driver := by
  have set := kept.setPolling .standard h
  unfold Instrument.start
  generalize i.setPolling .standard = result at set
  obtain ⟨cause | ⟨⟩, i'⟩ := result
  · exact set
  · exact kept.note _ set

lemma tick (h : I i.driver) : I i.tick.driver := by
  let pause : Routine σ Unit :=
    if i.realTime then Routine.delay (Sampler.period i.driver.pollInterval) else pure ()
  have quietly : Quietly True pause := by
    simp only [pause]
    split
    · exact .delay _
    · exact .pure ()
  have measured : I (measure (pause i.driver).2).2 :=
    kept.course (Course.of_measure _) (kept.run quietly h)
  rw [Instrument.tick]
  simp only [Instrument.run]
  generalize (measure _ : Except Failure Cycle × Driver σ) = result at measured ⊢
  obtain ⟨cause | cycle, d⟩ := result
  · exact kept.note (i := { i with driver := d }) _ measured
  · exact measured

lemma tickUntilClosed (channel : Channel) (ticks : Nat) (h : I i.driver) :
    I (i.tickUntilClosed channel ticks).2.driver := by
  induction ticks generalizing i with
  | zero => exact h
  | succ ticks ih =>
    rw [Instrument.tickUntilClosed]
    split
    · exact ih (kept.tick h)
    · exact kept.tick h

lemma ofDriver {d : Driver σ} (opened : (ofDriver d).1 = .ok i) (h : I d) : I i.driver := by
  have state : (Driver.perform .initialise d).2 = (initialise d).2 := (answered ..).1
  have brought := kept.perform .initialise h
  rw [state] at brought
  rw [Instrument.ofDriver] at opened
  generalize initialise d = result at opened brought
  obtain ⟨cause | ⟨⟩, d'⟩ := result
  · cases opened
  · cases opened
    exact brought

/-- What every run of a driver keeps, the requests to an instrument keep. -/
lemma carryOut (r : Request) (h : I i.driver) : I (r.carryOut i).2.driver := by
  cases r with
  | setPolling p => exact kept.setPolling p h
  | start => exact kept.start h
  | stop => exact kept.setPolling .manual h
  | operate op _ => exact kept.perform op h
  | tick => exact kept.tick h
  | awaitWindow channel ms =>
    dsimp only [Request.carryOut, Instrument.awaitWindow]
    split
    · exact kept.tickUntilClosed channel _ h
    · exact h

end Driver.Invariant

namespace Instrument

open Driver Simulation

/-! ### Modes on a sensor that answers -/

section

variable {σ : Type} [Transport σ] {i : Instrument σ} {p : Polling}

omit [Transport σ] in
lemma polling_of_asked {us : Nat} {testing : Bool} (asked : p.interval = .ok us)
    (switches : i.driver.switches = ⟨us.toUInt64, testing⟩) : i.polling = p.granted := by
  have interval : i.driver.pollInterval = us.toUInt64 := congrArg Switches.pollInterval switches
  rw [polling, interval]
  exact Polling.ofInterval_interval asked

omit [Transport σ] in
/-- A mode that was set is in force. -/
lemma Turn.polling_eq {i' : Instrument σ} (turn : Turn p i (.ok ()) i') :
    i'.polling = p.granted := by
  cases turn with
  | manual asked switches => exact polling_of_asked asked switches
  | periodic asked some switches => exact polling_of_asked asked switches

/-- Going back to manual mode leaves no unread reports. -/
lemma items_setPolling_manual (running : i.sampling = true) (c : Channel) :
    ((i.setPolling .manual).2.driver.streams.get c).backlog.items = [] := by
  rw [setPolling_of_onDemand rfl, stopSampling, if_pos running]
  change ((i.driver.streams.map (·.flush)).get c).backlog.items = []
  rw [PerChannel.get_map]
  rfl

end

/-- The filter register of the sensor holds the setting for the cutoff of the gyro. -/
def FollowsGyro (i : Instrument (FaultPlan Sensor)) : Prop :=
  i.driver.bus.inner.register? Register.filterConfig =
    some (OnChipFilter.forCutoff (wholeHertz i.driver.streams.gyro.cutoff)).registerValue

variable {i : Instrument (FaultPlan Sensor)} {p : Polling}

/-- On a sensor that answers, the chip's filter can always be programmed. -/
lemma programOnChipFilter_of_answering {d : Driver (FaultPlan Sensor)}
    (answering : d.bus.Answering) (hz : Nat) :
    ∃ d', programOnChipFilter hz d = (.ok (), d') ∧ d'.streams = d.streams ∧
      d'.bus.inner.register? Register.filterConfig =
        some (OnChipFilter.forCutoff hz).registerValue := by
  let value := (OnChipFilter.forCutoff hz).registerValue
  have written : (Transport.write Register.filterConfig value d.bus).1 = .ok () :=
    answering.write_checked 3 value
  have setting : IsSetting Register.filterConfig value := fun same => absurd same (by decide)
  have held := (FaultPlan.write_of_ok setting written 3).trans (if_pos rfl)
  rw [programOnChipFilter, Routine.bind_of_ok _ (writeChecked_of_ok written)]
  exact ⟨_, rfl, rfl, held⟩

lemma setPollInterval_of_answering {us : UInt64} (answering : i.driver.bus.Answering)
    (periodic : us ≠ 0) :
    ∃ d, setPollInterval us i.driver = (.ok (), d) ∧ FollowsGyro { i with driver := d } := by
  obtain ⟨d, programmed, streams, held⟩ :=
    programOnChipFilter_of_answering (d := i.driver.retuned us) answering
      (wholeHertz i.driver.streams.gyro.cutoff)
  have kept : d.streams.gyro.cutoff = i.driver.streams.gyro.cutoff := by
    rw [streams]
    exact Stream.cutoff_redesign ..
  refine ⟨d, (setPollInterval_of_periodic periodic i.driver).trans programmed, ?_⟩
  rw [FollowsGyro, kept]
  exact held

lemma followsGyro_startSampling (h : FollowsGyro i) : FollowsGyro i.startSampling := by
  have kept : i.stopSampling.driver.bus = i.driver.bus ∧
      i.stopSampling.driver.streams.gyro.cutoff = i.driver.streams.gyro.cutoff := by
    unfold stopSampling
    split
    · exact ⟨rfl, rfl⟩
    · exact ⟨rfl, rfl⟩
  rw [FollowsGyro, ← kept.1, ← kept.2] at h
  exact h

/-- On a sensor that answers, only modes that are not supported are refused. -/
lemma answer_setPolling (answering : i.driver.bus.Answering) (p : Polling) :
    (i.setPolling p).1 = (p.interval.mapError .invalidArgument).map fun _ => () := by
  cases asked : p.interval with
  | error reason =>
    rw [setPolling_of_refused asked]
    rfl
  | ok us =>
    by_cases onDemand : us = 0
    · rw [onDemand] at asked
      rw [setPolling_of_onDemand asked]
      rfl
    · obtain ⟨d, set, -⟩ := setPollInterval_of_answering answering
        (Polling.toUInt64_ne_zero asked onDemand)
      rw [setPolling_of_set asked onDemand set]
      rfl

lemma answer_start (i : Instrument (FaultPlan Sensor)) :
    i.start.1 = (i.setPolling .standard).1 := by
  rw [start]
  split
  · next result => rw [result]
  · rfl

/-- On a sensor that answers no mode is lost. -/
lemma isLost_of_answering {c : Call (FaultPlan Sensor)}
    (answering : c.before.driver.bus.Answering) : c.isLost = false := by
  obtain ⟨r, i⟩ := c
  have kept (p : Polling) : Call.isLost ⟨.setPolling p, i⟩ = false := by
    have answer : Call.answer ⟨.setPolling p, i⟩ =
        (p.interval.mapError .invalidArgument).map fun _ => () := answer_setPolling answering p
    rw [Call.isLost, answer]
    cases p.interval with
    | error reason => rfl
    | ok us => rfl
  cases r with
  | setPolling p => exact kept p
  | start =>
    have answer : Call.answer ⟨.start, i⟩ = Call.answer ⟨.setPolling .standard, i⟩ := answer_start i
    rw [Call.isLost, answer]
    exact kept .standard
  | stop => exact kept .manual
  | operate | tick | awaitWindow => rfl

lemma answering_carryOut (r : Request) (h : i.driver.bus.Answering) :
    (r.carryOut i).2.driver.bus.Answering :=
  FaultPlan.answering_invariant.invariant.carryOut r h

/-- So the sampler stays in step with the mode. -/
lemma Tracking.carryOut (tracking : Tracking false i) (answering : i.driver.bus.Answering)
    (r : Request) : Tracking false (r.carryOut i).2 := by
  have next := tracking.call (c := ⟨r, i⟩)
  have kept : strandedNext false (⟨r, i⟩ : Call (FaultPlan Sensor)) = false := by
    rw [strandedNext, Call.strands, isLost_of_answering (by exact answering)]
    split <;> rfl
  rw [kept] at next
  exact next

/-! ### Instruments in use -/

/-- The states of an instrument whose sensor answers: it was opened with any configuration, and has
carried out requests since, of its owner, its sampler and its front ends. In between, its sensor,
its clock and what is written out may be changed in any way, as long as the sensor goes on
answering. -/
inductive InUse : Instrument (FaultPlan Sensor) → Prop where
  | opened {bus : FaultPlan Sensor} {clock : Clock} {config : Configuration} (logging : Bool)
      {i : Instrument (FaultPlan Sensor)} (answering : bus.Answering)
      (opened : (ofDriver { Driver.new bus clock config with logging := logging }).1 = .ok i) :
      InUse i
  | carriedOut {i : Instrument (FaultPlan Sensor)} (h : InUse i) (r : Request) :
      InUse (r.carryOut i).2
  | throughFrontEnd {i : Instrument (FaultPlan Sensor)} (h : InUse i) (r : Request) :
      InUse (i.throughFrontEnd r.carryOut).2
  | elsewhere {i : Instrument (FaultPlan Sensor)} (h : InUse i) {bus : FaultPlan Sensor}
      (answering : bus.Answering) (clock : Clock) (logging realTime : Bool)
      (published : Array Publication) (log : Array Event) :
      InUse
        { i with
          driver := { i.driver with
            bus := bus, clock := clock, logging := logging, published := published, log := log }
          realTime := realTime }

/-- The sensor goes on answering, and the sampler runs exactly if the mode is not the manual one. -/
lemma InUse.inService (used : InUse i) : i.driver.bus.Answering ∧ Tracking false i := by
  induction used with
  | opened _ answering opened =>
    exact ⟨FaultPlan.answering_invariant.invariant.ofDriver opened answering,
      .of_ofDriver rfl opened⟩
  | carriedOut used r ih => exact ⟨answering_carryOut r ih.1, ih.2.carryOut ih.1 r⟩
  | throughFrontEnd used r ih =>
    rw [Instrument.throughFrontEnd, ih.2.held, if_neg Bool.false_ne_true]
    exact ⟨answering_carryOut r ih.1, ih.2.carryOut ih.1 r⟩
  | elsewhere used answering _ _ _ _ _ ih => exact ⟨answering, ih.2.of_modes rfl⟩

/-- A request for a mode that was served. -/
structure Serves (p : Polling) (before after : Instrument (FaultPlan Sensor)) : Prop where
  mode : after.polling = p.granted
  frontEnds : after.throughFrontEnd (fun i => (.ok i.polling, i)) = (.ok p.granted, after)
  sampler : after.sampling = true ↔ after.polling ≠ .manual
  emptied : p = .manual → before.polling ≠ .manual →
    ∀ c, (after.driver.streams.get c).backlog.items = []
  filter : p ≠ .manual → FollowsGyro after

lemma followsGyro_setPolling {us : Nat} (answering : i.driver.bus.Answering)
    (asked : p.interval = .ok us) (periodic : us ≠ 0) : FollowsGyro (i.setPolling p).2 := by
  obtain ⟨d, set, follows⟩ :=
    setPollInterval_of_answering answering (Polling.toUInt64_ne_zero asked periodic)
  rw [setPolling_of_set asked periodic set]
  dsimp only
  split
  · exact followsGyro_startSampling follows
  · exact follows

lemma InUse.serves (used : InUse i) (ok : (i.setPolling p).1 = .ok ()) :
    Serves p i (i.setPolling p).2 := by
  obtain ⟨answering, tracking⟩ := used.inService
  have after : Tracking false (i.setPolling p).2 := (used.carriedOut (.setPolling p)).inService.2
  have turn := Turn.of_setPolling p i
  rw [ok] at turn
  have mode := turn.polling_eq
  refine ⟨mode, ?_, ?_, ?_, fun periodic => ?_⟩
  · rw [Instrument.throughFrontEnd, after.held, if_neg Bool.false_ne_true, mode]
  · rw [after.running]
    exact and_iff_left rfl
  · rintro rfl periodic
    exact items_setPolling_manual (tracking.running.2 ⟨periodic, rfl⟩)
  · cases asked : p.interval with
    | error reason =>
      rw [setPolling_of_refused asked] at ok
      cases ok
    | ok us =>
      refine followsGyro_setPolling answering asked ?_
      rintro rfl
      exact periodic (Polling.interval_eq_zero_iff.1 asked)

/-- A request for a mode is refused as an invalid argument exactly if the mode is not supported, and
then nothing at all is changed. Otherwise it succeeds, and the mode is in force: it reads back as
it was asked for, from the owner and from the front ends, the sampler runs exactly if the mode is
not the manual one, going back to manual mode leaves no unread reports, and a periodic mode leaves
the setting for the cutoff of the gyro in the filter register of the sensor. The front ends set the
mode as the owner does. -/
theorem setPolling_serves (used : InUse i) (p : Polling) :
    ((∃ reason, (i.setPolling p).1 = .error (.invalidArgument reason)) ↔ p.Unsupported) ∧
      (p.Unsupported → (i.setPolling p).2 = i) ∧
      (¬p.Unsupported → (i.setPolling p).1 = .ok () ∧ Serves p i (i.setPolling p).2) ∧
      i.throughFrontEnd (setPolling p) = i.setPolling p := by
  obtain ⟨answering, tracking⟩ := used.inService
  have answer := answer_setPolling answering p
  refine ⟨?_, fun unsupported => ?_, fun supported => ?_, ?_⟩
  · rw [answer, ← Polling.interval_eq_error_iff]
    cases p.interval with
    | error reason => exact ⟨fun _ => ⟨reason, rfl⟩, fun _ => ⟨reason, rfl⟩⟩
    | ok us => exact ⟨nofun, nofun⟩
  · obtain ⟨reason, refused⟩ := Polling.interval_eq_error_iff.2 unsupported
    rw [setPolling_of_refused refused]
  · have ok : (i.setPolling p).1 = .ok () := by
      rw [answer]
      rw [← Polling.interval_eq_error_iff] at supported
      cases asked : p.interval with
      | error reason => exact absurd ⟨reason, asked⟩ supported
      | ok us => rfl
    exact ⟨ok, used.serves ok⟩
  · rw [throughFrontEnd, tracking.held, if_neg Bool.false_ne_true]

/-- Three hundred hertz read back as such, although the interval is a third of a microsecond too
short. -/
theorem setPolling_serves_three_hundred :
    let i := (Request.start.carryOut (openedOver [])).2
    InUse i ∧ i.polling = .hertz 1000 ∧
      (i.setPolling (.hertz 300)).1 = .ok () ∧
      (i.setPolling (.hertz 300)).2.driver.pollInterval = 3333 ∧
      Serves (.hertz 300) i (i.setPolling (.hertz 300)).2 ∧
      (i.setPolling (.hertz 1001)).2 = i := by
  intro i
  have opened : (ofDriver (driverOver [])).1 = .ok (openedOver []) :=
    ofDriver_eq_ok (by decide +kernel)
  have used : InUse i := .carriedOut (.opened false ⟨rfl, rfl⟩ opened) .start
  have supported : ¬Polling.Unsupported (.hertz 300) := by
    rw [Polling.unsupported_hertz_iff]
    decide
  have served := (setPolling_serves used (.hertz 300)).2.2.1 supported
  exact ⟨used, by decide +kernel, served.1, by decide +kernel, served.2,
    (setPolling_serves used (.hertz 1001)).2.1 (.fast (by decide))⟩

end Instrument

end InertialSensor
