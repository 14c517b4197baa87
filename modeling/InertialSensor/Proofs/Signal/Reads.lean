import InertialSensor.Proofs.Signal.Lockstep

/-!
# What a read answers with

A read of nothing is refused. While the sensor is polled, a read takes the oldest unread reports off
the backlog and does nothing else but count itself; while it is measured on demand, a read drops
what is unread, runs one cycle and answers with the report of that cycle.
-/

namespace InertialSensor.Driver

open Routine

variable {σ : Type}

/-- The state after a read of a stream was counted, which has left these reports unread. -/
def afterRead (c : Channel) (unread : List Report) (d : Driver σ) : Driver σ :=
  { d with
    stats.reads := d.stats.reads.modify c (· + 1)
    streams := d.streams.modify c fun s => { s with backlog.items := unread } }

/-- What is unread is delivered up to `max` reports, oldest first, and the others stay unread. -/
lemma countedTake_apply (c : Channel) (max : Nat) (d : Driver σ) :
    countedTake c max d =
      (if ((d.streams.get c).backlog.items.take max).isEmpty then .error .noData
        else .ok ((d.streams.get c).backlog.items.take max),
        d.afterRead c ((d.streams.get c).backlog.items.drop max)) := by
  have counted : tally (fun s => { s with reads := s.reads.modify c (· + 1) }) d =
      (.ok (), { d with stats.reads := d.stats.reads.modify c (· + 1) }) := rfl
  have taken : takeReports c max { d with stats.reads := d.stats.reads.modify c (· + 1) } =
      (.ok ((d.streams.get c).backlog.items.take max),
        d.afterRead c ((d.streams.get c).backlog.items.drop max)) := by
    cases c with
    | accel => rfl
    | gyro => rfl
  rw [countedTake, bind_of_ok _ counted, bind_of_ok _ taken]
  split
  · rfl
  · rfl

/-- A read that finds nothing unread, because its cycle made no report, answers so. -/
lemma countedTake_of_nothing {c : Channel} {max : Nat} {d : Driver σ}
    (nothing : (d.streams.get c).backlog.items = []) :
    countedTake c max d = (.error .noData, d.afterRead c []) := by
  simp [countedTake_apply, nothing]

lemma countedTake_of_one {c : Channel} {max : Nat} {d : Driver σ} {r : Report} (wanted : max ≠ 0)
    (one : (d.streams.get c).backlog.items = [r]) :
    countedTake c max d = (.ok [r], d.afterRead c []) := by
  obtain ⟨more, rfl⟩ := Nat.exists_eq_succ_of_ne_zero wanted
  simp [countedTake_apply, one]

variable [Transport σ]

/-- While measuring on demand, a read fails as its cycle fails. -/
lemma read_of_failed {c : Channel} {max : Nat} {d : Driver σ} (wanted : max ≠ 0)
    (onDemand : d.pollInterval = 0) {p : Passage σ}
    (start : p.before = { d with streams := d.streams.modify c (·.flush) }) {cause : Failure}
    (failed : p.outcome = .error cause) : read c max d = (.error cause, p.after) := by
  have ended : measure p.before = (.error cause, p.after) := Prod.ext failed rfl
  rw [read_of_demand c wanted onDemand, ← start, bind_of_error _ ended]

/-- While measuring on demand, a read delivers the report of its cycle, or none if it made none. -/
lemma read_of_cycle {c : Channel} {max : Nat} {d : Driver σ} (wanted : max ≠ 0)
    (onDemand : d.pollInterval = 0) {p : Passage σ}
    (start : p.before = { d with streams := d.streams.modify c (·.flush) }) {outcome : Cycle}
    (ends : p.outcome = .ok outcome) :
    read c max d =
      (match p.report? c with
        | some r => .ok [r]
        | none => .error .noData, p.after.afterRead c []) := by
  have ended : measure p.before = (.ok outcome, p.after) := Prod.ext ends rfl
  rw [read_of_demand c wanted onDemand, ← start, bind_of_ok _ ended]
  have flushed : (p.before.streams.get c).backlog.items = [] := by
    rw [start, PerChannel.get_modify_same]
    rfl
  cases samples : p.samples with
  | false =>
    have same := (p.interior_of_unsampled samples).streams
    rw [Passage.report?_of_unsampled c samples]
    exact countedTake_of_nothing (by rw [same, flushed])
  | true =>
    obtain ⟨r, report, pushed⟩ := p.backlog_of_samples c samples
    rw [report]
    refine countedTake_of_one wanted ?_
    rw [pushed, Backlog.items_push, flushed]
    split
    · rfl
    · rfl

/-- A read of nothing is refused. While the sensor is polled, a read answers with the oldest unread
reports, at most `max` of them, and leaves the others, or fails because there are none; it counts
itself, and besides leaves the bus, the other stream and all else alone. While the sensor is
measured on demand, a read drops what is unread on its stream and runs exactly one cycle; it answers
with the report that this cycle made at the time of the call, fails as the cycle failed, or fails
because the cycle made none. -/
theorem read_serves (c : Channel) (max : Nat) (d : Driver σ) :
    (max = 0 → read c max d = (.error .bufferTooSmall, d)) ∧
      (max ≠ 0 → d.pollInterval ≠ 0 →
        let unread := (d.streams.get c).backlog.items
        read c max d =
          (if unread = [] then .error .noData else .ok (unread.take max),
            d.afterRead c (unread.drop max))) ∧
      (max ≠ 0 → d.pollInterval = 0 →
        let p : Passage σ := ⟨{ d with streams := d.streams.modify c (·.flush) }⟩
        match p.outcome with
        | .ok (.sampled _) =>
          ∃ r, p.report? c = some r ∧ r.time = d.now ∧
            read c max d = (.ok [r], p.after.afterRead c [])
        | .ok _ => read c max d = (.error .noData, p.after.afterRead c [])
        | .error cause => read c max d = (.error cause, p.after)) := by
  refine ⟨?_, ?_, ?_⟩
  · rintro rfl
    rw [read_zero]
    rfl
  · intro wanted polled unread
    have empty : (unread.take max).isEmpty = true ↔ unread = [] := by
      rw [List.isEmpty_iff, List.take_eq_nil_iff]
      simp [wanted]
    rw [read_of_polled c wanted polled, countedTake_apply]
    simp only [← empty]
    rfl
  · intro wanted onDemand p
    have unsampled {outcome : Cycle} (ends : p.outcome = .ok outcome)
        (samples : p.samples = false) :
        read c max d = (.error .noData, p.after.afterRead c []) := by
      have answer := read_of_cycle (p := p) wanted onDemand rfl ends
      rwa [Passage.report?_of_unsampled c samples] at answer
    split
    · next closed ends =>
      have samples : p.samples = true := by
        rw [Passage.samples, ends]
        rfl
      obtain ⟨r, report, -⟩ := p.backlog_of_samples c samples
      have answer := read_of_cycle (p := p) wanted onDemand rfl ends
      rw [report] at answer
      exact ⟨r, report, (Passage.stamp report).1, answer⟩
    · next outcome other ends =>
      refine unsampled ends ?_
      rw [Passage.samples, ends]
      cases outcome with
      | sampled closed => exact absurd rfl (other closed)
      | skipped | duplicate | settling => rfl
    · next cause failed => exact read_of_failed wanted onDemand rfl failed

/-- After bring-up, a read of the gyro answers with a sample taken at its call. Once the sensor is
polled and two cycles have passed, a read of one report answers with the older of the two. -/
theorem read_on_demand_and_polled :
    let brought := (perform .initialise (.new (Simulation.Sensor.new .internal) .start {})).2
    let polled := (performAll [.setPollInterval 1000, .measure, .measure] brought).2
    brought.pollInterval = 0 ∧ (∃ r, (read .gyro 5 brought).1 = .ok [r] ∧ r.time = brought.now) ∧
      polled.pollInterval ≠ 0 ∧ polled.streams.gyro.backlog.items.length = 2 ∧
      (read .gyro 1 polled).1 = .ok (polled.streams.gyro.backlog.items.take 1) := by
  intro brought polled
  have onDemand : brought.pollInterval = 0 := by decide +kernel
  have periodic : polled.pollInterval ≠ 0 := by decide +kernel
  have queued : polled.streams.gyro.backlog.items.length = 2 := by decide +kernel
  have samples : Passage.samples
      ⟨{ brought with streams := brought.streams.modify .gyro (·.flush) }⟩ = true := by
    decide +kernel
  clear_value polled brought
  refine ⟨onDemand, ?_, periodic, queued, ?_⟩
  · have serves := (read_serves .gyro 5 brought).2.2 (by decide) onDemand
    rw [Passage.samples] at samples
    dsimp only at serves
    split at serves
    · obtain ⟨r, -, time, answer⟩ := serves
      exact ⟨r, congrArg Prod.fst answer, time⟩
    · next outcome other ends =>
      rw [ends] at samples
      cases outcome with
      | sampled closed => exact absurd rfl (other closed)
      | skipped | duplicate | settling => cases samples
    · next cause failed =>
      rw [failed] at samples
      cases samples
  · have serves := (read_serves .gyro 1 polled).2.1 (by decide) periodic
    have unread : (polled.streams.get .gyro).backlog.items ≠ [] :=
      List.length_pos_iff.mp (queued ▸ Nat.zero_lt_two)
    rw [serves, if_neg unread]
    rfl

end InertialSensor.Driver
