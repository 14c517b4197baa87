import InertialSensor.Proofs.Driver.Related
import InertialSensor.Proofs.Driver.Reports
import InertialSensor.Simulation.Sensor

/-!
# Rejected cycles

A cycle that accepts no sample leaves the streams, the temperature and what is published as they
are. One that breaks off before it has its data block leaves everything else too, except for the
clock source that it may have restored and for two counters.

What it counted shows in the next cycle only in the numbers of errors that reports carry: `Ahead`
relates a state to one that has counted more, and is a coupling; so from `p.undone`, the state as if
the cycle had not taken place, the next cycle comes to the same (`rejected_cycles_leave_no_trace`).
-/

namespace InertialSensor

/-! ### Without the numbers of errors -/

/-- The report without the number of errors. -/
def Report.uncounted (r : Report) : Report := { r with errors := 0 }

/-- The backlog with every item replaced by its image. -/
def Backlog.map {α β : Type} (f : α → β) (b : Backlog α) : Backlog β :=
  { b with items := b.items.map f }

lemma Backlog.map_push {α β : Type} (f : α → β) (b : Backlog α) (a : α) :
    (b.push a).map f = (b.map f).push (f a) := by
  have size : (b.map f).size = b.size := List.length_map f
  have capacity : (b.map f).capacity = b.capacity := rfl
  unfold push
  rw [size, capacity]
  split
  · simp [map]
  · simp [map]

/-- The stream without the numbers of errors in its reports. -/
def Stream.uncounted (s : Stream) : Stream := { s with backlog := s.backlog.map (·.uncounted) }

def Publication.uncounted (p : Publication) : Publication := { p with report := p.report.uncounted }

/-- The stream handles a sample the same whatever was counted, except for the number of errors in
the report. -/
lemma Stream.accept_of_uncounted {s t : Stream} (same : t.uncounted = s.uncounted)
    (conditions : Conditions) (more : Nat) (scaling : Scaling)
    (temperature : Option DieTemperature) (raw : Axes Int16) :
    let made := s.accept conditions scaling temperature raw
    let made' :=
      t.accept { conditions with errors := conditions.errors + more } scaling temperature raw
    made'.1 = { made.1 with errors := made.1.errors + more } ∧ made'.2.1 = made.2.1 ∧
      made'.2.2.uncounted = made.2.2.uncounted := by
  obtain ⟨calibration, filters, window, backlog, closed⟩ := s
  obtain ⟨calibration', filters', window', backlog', closed'⟩ := t
  simp only [uncounted, mk.injEq] at same
  obtain ⟨rfl, rfl, rfl, unread, rfl⟩ := same
  refine ⟨rfl, rfl, ?_⟩
  simp only [accept, uncounted, Backlog.map_push, unread]
  rfl

namespace Driver

open Routine

variable {σ : Type} {n m : Nat}

/-- The state without the numbers of cycles and of bad transfers, and without the numbers of errors
that reports carry. -/
def uncounted (d : Driver σ) : Driver σ :=
  { d with
    stats := { d.stats with cycles := 0, badTransfers := 0 }
    streams := d.streams.map (·.uncounted)
    published := d.published.map (·.uncounted) }

/-- The second state has counted more cycles and bad transfers than the first, and is the same
otherwise, except for the numbers of errors that reports carry. -/
structure Ahead (n m : Nat) (d e : Driver σ) : Prop where
  cycles : e.stats.cycles = d.stats.cycles + n
  badTransfers : e.stats.badTransfers = d.stats.badTransfers + m
  same : e.uncounted = d.uncounted

lemma Ahead.errors {d e : Driver σ} (h : Ahead n m d e) :
    e.stats.errors = d.stats.errors + m := by
  have registers : e.stats.badRegisters = d.stats.badRegisters :=
    congrArg (·.stats.badRegisters) h.same
  rw [Stats.errors, Stats.errors, h.badTransfers, registers]
  omega

lemma Ahead.stream {d e : Driver σ} (h : Ahead n m d e) (c : Channel) :
    (e.streams.get c).uncounted = (d.streams.get c).uncounted := by
  have same := congrArg (·.streams.get c) h.same
  simpa only [uncounted, PerChannel.get_map] using same

/-! ### Accepting a sample -/

/-- What one stream makes of a sample differs by the number of errors in the report. -/
lemma making_of_ahead {d e : Driver σ} (h : Ahead n m d e) (c : Channel) (sample : Sample) :
    (e.making c sample).1 =
        { (d.making c sample).1 with errors := (d.making c sample).1.errors + m } ∧
      (e.making c sample).2.1 = (d.making c sample).2.1 ∧
        (e.making c sample).2.2.uncounted = (d.making c sample).2.2.uncounted := by
  have config : e.config = d.config := congrArg (·.config) h.same
  have now : e.now = d.now := congrArg (·.clock.now) h.same
  have scaling : e.scaling c = d.scaling c := congrArg (·.scaling c) h.same
  rw [making, making, config, now, h.errors, scaling]
  exact Stream.accept_of_uncounted (h.stream c) ⟨d.config.mounting, d.now, d.stats.errors⟩ m ..

lemma uncounted_publish (c : Channel) (report : Report) (closed : Bool) (d : Driver σ) :
    (d.publish c report closed).uncounted = d.uncounted.publish c report.uncounted closed := by
  have muted : d.uncounted.muted = d.muted := rfl
  unfold publish
  rw [muted]
  split
  · simp [uncounted, Publication.uncounted]
  · rfl

lemma uncounted_accept (sample : Sample) (d : Driver σ) :
    (d.accept sample).2.uncounted =
      ({ d.uncounted with
        streams :=
          ⟨(d.making .accel sample).2.2.uncounted, (d.making .gyro sample).2.2.uncounted⟩
        temperature := celsius sample.temperature }.publish .accel
          (d.making .accel sample).1.uncounted (d.making .accel sample).2.1).publish .gyro
          (d.making .gyro sample).1.uncounted (d.making .gyro sample).2.1 := by
  rw [accept]
  simp only [uncounted_publish]
  rfl

/-- One state is ahead of the other, and if the cycle that led to them sampled, the numbers of errors
in its reports are so too. -/
def AheadReports (n m : Nat) (outcome : Except Failure Cycle) (d e : Driver σ) : Prop :=
  Ahead n m d e ∧ (isSampled outcome = true → ∀ c,
    (e.streams.get c).backlog.items.getLast? =
      (d.streams.get c).backlog.items.getLast?.map fun r => { r with errors := r.errors + m })

lemma accept_ahead (sample : Sample) :
    Relates (Ahead n m) (AheadReports n m) fun d : Driver σ =>
      (.ok (.sampled (d.accept sample).1), (d.accept sample).2) := by
  intro d e h
  have made := making_of_ahead h
  have closed (d : Driver σ) : (d.accept sample).1 =
      ⟨(d.making .accel sample).2.1, (d.making .gyro sample).2.1⟩ := rfl
  have report (c : Channel) :
      (e.making c sample).1.uncounted = (d.making c sample).1.uncounted := by
    rw [(made c sample).1]
    rfl
  have stats (d : Driver σ) : (d.accept sample).2.stats = d.stats := by rw [accept_eq]
  refine ⟨?_, ⟨?_, ?_, ?_⟩, fun _ c => ?_⟩
  · simp only [closed, (made _ sample).2.1]
  · simp only [stats]
    exact h.cycles
  · simp only [stats]
    exact h.badTransfers
  · simp only [uncounted_accept, h.same, report, (made _ sample).2.1, (made _ sample).2.2]
  · simp only [getLast?_accept, Option.map_some, (made c sample).1]

variable [Transport σ]

/-- A state that is ahead of another is the same in what a cycle looks at. -/
lemma ahead_coupling : Coupling (Ahead (σ := σ) n m) where
  now h := (congrArg (·.clock.now) h.same).symm
  verifies h := (congrArg (·.config.verifies) h.same).symm
  inFactoryTest h := (congrArg (·.inFactoryTest) h.same).symm
  watch h := (congrArg (·.watch) h.same).symm
  guard h := (congrArg (·.guard) h.same).symm
  read {d e _} address speed buffer h := by
    have bus : e.bus = d.bus := congrArg (·.bus) h.same
    rw [bus]
    exact ⟨rfl, h.cycles, h.badTransfers, congrArg (fun k : Driver σ =>
      { k with bus := (Transport.read address speed buffer d.bus).2 }) h.same⟩
  write {d e} address value h := by
    have bus : e.bus = d.bus := congrArg (·.bus) h.same
    rw [bus]
    exact ⟨rfl, h.cycles, h.badTransfers, congrArg (fun k : Driver σ =>
      { k with bus := (Transport.write address value d.bus).2 }) h.same⟩
  setWatch watch h :=
    ⟨h.cycles, h.badTransfers, congrArg (fun k : Driver σ => { k with watch := watch }) h.same⟩
  setGuard guard h :=
    ⟨h.cycles, h.badTransfers, congrArg (fun k : Driver σ => { k with guard := guard }) h.same⟩
  note event h :=
    ⟨h.cycles, h.badTransfers,
      congrArg (fun k : Driver σ => { k with log := k.log.push event }) h.same⟩
  count {_ _ f} counting h := by
    have counted := congrArg (fun k : Driver σ => { k with stats := f k.stats }) h.same
    have cycles := h.cycles
    have badTransfers := h.badTransfers
    cases counting with
    | cycle => exact ⟨by simp only [cycles]; omega, badTransfers, h.same⟩
    | bad => exact ⟨cycles, by simp only [badTransfers]; omega, h.same⟩
    | mismatch | good | duplicate => exact ⟨cycles, badTransfers, counted⟩

end Driver

/-! ### Cycles that break off -/

namespace Passage

open Driver Simulation

variable {σ : Type} [Transport σ] {p : Passage σ}

/-- The cycle could not restore the clock source, or fetch its data block in full. -/
def breaksOff (p : Passage σ) : Bool := !p.before.isSuspended && !(opening p.before).1.isOk

/-- The state as if the cycle had not taken place, except for what it did on the bus and for the
clock source that it may have restored. -/
def undone (p : Passage σ) : Driver σ :=
  { p.before with
    bus := p.after.bus
    watch := { p.before.watch with wakePending := p.after.watch.wakePending } }

/-- The cycle that starts after a time. -/
def later (us : UInt64) (d : Driver σ) : Passage σ := ⟨{ d with clock := d.clock.advance us }⟩

/-- A cycle breaks off in the state in which its opening ends. -/
lemma opening_of_breaksOff (broken : p.breaksOff = true) :
    ∃ cause, opening p.before = (.error cause, p.after) ∧ p.outcome = .error cause := by
  obtain ⟨active, failed⟩ := Bool.and_eq_true_iff.mp broken
  rw [Bool.not_eq_true'] at active
  rcases result : opening p.before with ⟨cause | block, d⟩
  · rw [after, outcome, measure_of_broken active result]
    exact ⟨cause, rfl, rfl⟩
  · simp [result, Except.isOk, Except.toBool] at failed

/-- What a cycle leaves behind that breaks off: nothing if the clock source was not restored, and
otherwise one more cycle and one more bad transfer counted. -/
lemma after_of_breaksOff (broken : p.breaksOff = true) :
    ∃ n, (n = 0 ∧ p.after.watch.wakePending = true ∨ n = 1 ∧ p.after.watch.wakePending = false) ∧
      p.after =
        { p.undone with
          stats :=
            { p.before.stats with
              cycles := p.before.stats.cycles + n
              badTransfers := p.before.stats.badTransfers + n } } := by
  obtain ⟨cause, failed, -⟩ := opening_of_breaksOff broken
  have opened := Opening.of_opening p.before
  rw [failed] at opened
  rw [undone]
  generalize p.after = after at opened ⊢
  cases opened with
  | asleep restored =>
    cases restored with
    | failed due => exact ⟨0, .inl ⟨rfl, due⟩, rfl⟩
  | lost restored fetched =>
    have awake := restored.awake
    cases fetched with
    | failed =>
      refine ⟨1, .inr ⟨rfl, awake⟩, ?_⟩
      cases restored with
      | notDue | done => rfl

/-- A read does not fail as an empty sample does. -/
lemma ne_zeroSample_of_readExactly {size : Nat} {address : UInt8} {speed : Speed} {d : Driver σ}
    {cause : Failure} (unread : (readExactly size address speed d).1 = .error cause) :
    cause ≠ .zeroSample := by
  cases read : (Transport.read address speed (Vector.replicate size 0) d.bus).1 with
  | error text =>
    rw [readExactly, Routine.bind_apply, readInto_apply, read] at unread
    cases unread
    rintro ⟨⟩
  | ok reading =>
    rw [readExactly_of_ok read] at unread
    split at unread
    · cases unread
    · cases unread
      rintro ⟨⟩

/-- The errors with which a cycle breaks off are those of transfers. -/
lemma breaksOff_iff (p : Passage σ) :
    p.breaksOff = true ↔ ∃ cause, p.outcome = .error cause ∧ cause ≠ .zeroSample := by
  constructor
  · intro broken
    obtain ⟨cause, failed, ends⟩ := opening_of_breaksOff broken
    refine ⟨cause, ends, ?_⟩
    have opened := Opening.of_opening p.before
    rw [failed] at opened
    generalize p.after = after at opened
    cases opened with
    | asleep restored => cases restored with | failed => nofun
    | lost restored fetched =>
      cases fetched with
      | failed unread => exact ne_zeroSample_of_readExactly unread
  · rintro ⟨cause, ends, other⟩
    cases suspended : p.before.isSuspended with
    | true =>
      rw [outcome, measure_of_suspended suspended] at ends
      cases ends
    | false =>
      rcases result : opening p.before with ⟨cause' | block, d⟩
      · simp [breaksOff, suspended, result, Except.isOk, Except.toBool]
      · obtain ⟨d', -, digested⟩ := measure_of_opened suspended result
        have digestion := Digestion.of_digest block d'
        rw [outcome, digested] at ends
        rw [ends] at digestion
        generalize (digest block d').2 = after at digestion
        cases digestion with
        | empty => exact absurd rfl other

/-- What becomes of a cycle that accepts no sample, from every state and whatever the bus does. The
streams with their filters, windows and backlogs, the temperature and what is published are as
before.

The cycle breaks off, that is, the clock source cannot be restored or the data block is not fetched
in full, exactly if it ends with an error other than that for an empty sample. Then the whole state
is as before, up to what was done on the bus: either the restoration is still due and nothing was
counted, or it is no longer due, and one cycle and one bad transfer were counted. Whenever the next
cycle starts, it comes to the same as if this one had not taken place, and leaves the same behind,
except that it is ahead by what was counted, also in the number of errors that its reports carry. -/
theorem rejected_cycles_leave_no_trace (p : Passage σ) :
    (p.samples = false →
      p.after.streams = p.before.streams ∧ p.after.temperature = p.before.temperature ∧
        p.after.published = p.before.published) ∧
    (p.breaksOff = true ↔ ∃ cause, p.outcome = .error cause ∧ cause ≠ .zeroSample) ∧
    (p.breaksOff = true →
      ∃ n, (n = 0 ∧ p.after.watch.wakePending = true ∨ n = 1 ∧ p.after.watch.wakePending = false) ∧
        p.after =
          { p.undone with
            stats :=
              { p.before.stats with
                cycles := p.before.stats.cycles + n
                badTransfers := p.before.stats.badTransfers + n } } ∧
        ∀ us,
          let next := later us p.after
          let next' := later us p.undone
          next.outcome = next'.outcome ∧ Ahead n n next'.after next.after ∧
            ∀ c, next.report? c =
              (next'.report? c).map fun r => { r with errors := r.errors + n }) := by
  refine ⟨fun unsampled => ?_, p.breaksOff_iff, fun broken => ?_⟩
  · have same := p.interior_of_unsampled unsampled
    exact ⟨same.streams, congrArg (·.processing.temperature) same.interior, same.published⟩
  · obtain ⟨n, wake, left⟩ := after_of_breaksOff broken
    refine ⟨n, wake, left, fun us => ?_⟩
    have ahead : Ahead n n (later us p.undone).before (later us p.after).before := by
      rw [left]
      exact ⟨rfl, rfl, rfl⟩
    obtain ⟨same, after, reports⟩ := ahead_coupling.measure
      (fun unsampled h => ⟨h, fun sampled => absurd sampled (by rw [unsampled]; decide)⟩)
      accept_ahead _ _ ahead
    refine ⟨same.symm, after, fun c => ?_⟩
    have samples : (later us p.after).samples = (later us p.undone).samples :=
      congrArg isSampled same.symm
    rw [report?, report?, samples]
    split
    · next sampled => exact reports sampled c
    · rfl

/-- A cycle whose data block comes back one byte short leaves no trace, and the next one makes
reports. -/
theorem no_trace_of_short_block :
    let sensor := { Sensor.new .internal with shortReads := 1 }
    let start : Driver Sensor := (performAll [.initialise] (.new sensor .start {})).2
    let p : Passage Sensor := ⟨start⟩
    p.breaksOff = true ∧ p.after.streams = p.before.streams ∧
      (later 1000 p.after).outcome = (later 1000 p.undone).outcome ∧
      (later 1000 p.after).samples = true := by
  intro sensor start p
  have broken : p.breaksOff = true ∧ p.samples = false := by decide +kernel
  obtain ⟨left, -, traceless⟩ := rejected_cycles_leave_no_trace p
  obtain ⟨n, -, -, next⟩ := traceless broken.1
  exact ⟨broken.1, (left broken.2).1, (next 1000).1, by decide +kernel⟩

end Passage

end InertialSensor
