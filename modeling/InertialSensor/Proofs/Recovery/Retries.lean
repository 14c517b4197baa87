import InertialSensor.Proofs.Recovery.Attempts
import InertialSensor.Proofs.Settings.Coherence

/-!
# How often a reset is tried

A reset is a few attempts, and once one of them takes, the writing of the configuration
(`reset_of_vain`, `reset_of_taken`). `Written` says how the writing of registers goes, which ends
with the first write that fails.
-/

namespace InertialSensor

variable {σ : Type} [Transport σ]

/-! ### Writing registers one after the other -/

/-- Registers are written in order, until a write fails: the transfers, the result, which has the
text of the write that failed, and the bus after it. -/
inductive Written :
    List (UInt8 × UInt8) → σ → List Transfer → Except Failure Unit → σ → Prop where
  | done (bus : σ) : Written [] bus [] (.ok ()) bus
  | refused {address value : UInt8} {later : List (UInt8 × UInt8)} {bus after : σ} {text : String}
      (fails : Transport.write address value bus = (.error text, after)) :
      Written ((address, value) :: later) bus [.write address value false] (.error (.bus text))
        after
  | written {address value : UInt8} {later : List (UInt8 × UInt8)} {bus between after : σ}
      {new : List Transfer} {result : Except Failure Unit}
      (succeeds : Transport.write address value bus = (.ok (), between))
      (rest : Written later between new result after) :
      Written ((address, value) :: later) bus (.write address value true :: new) result after

namespace Written

variable {writes later : List (UInt8 × UInt8)} {bus between after : σ} {new new' : List Transfer}
  {result : Except Failure Unit}

/-- After all registers were written, more can be. -/
lemma append (h : Written writes bus new (.ok ()) between)
    (rest : Written later between new' result after) :
    Written (writes ++ later) bus (new ++ new') result after := by
  generalize success : Except.ok () = first at h
  induction h with
  | done => exact rest
  | refused => cases success
  | written succeeds _ ih => exact .written succeeds (ih rest success)

/-- After a failure no more is written. -/
lemma append_of_error {cause : Failure} (h : Written writes bus new (.error cause) after)
    (later : List (UInt8 × UInt8)) : Written (writes ++ later) bus new (.error cause) after := by
  generalize failure : Except.error cause = first at h
  induction h with
  | done => cases failure
  | refused fails => exact .refused fails
  | written succeeds _ ih => exact .written succeeds (ih failure)

/-- Only the transport makes it fail. -/
lemma exists_text {cause : Failure} (h : Written writes bus new (.error cause) after) :
    ∃ text, cause = .bus text := by
  generalize failure : Except.error cause = first at h
  induction h with
  | done => cases failure
  | refused =>
    cases failure
    exact ⟨_, rfl⟩
  | written _ _ ih => exact ih failure

/-- Only registers of the list are written. -/
lemma addressed (h : Written writes bus new result after) :
    ∀ t ∈ new, ∃ w ∈ writes, ∃ succeeded, t = .write w.1 w.2 succeeded := by
  induction h with
  | done => exact nofun
  | refused =>
    rintro t (_ | ⟨_, ⟨⟩⟩)
    exact ⟨_, List.mem_cons_self, _, rfl⟩
  | written _ _ ih =>
    rintro t (_ | ⟨_, member⟩)
    · exact ⟨_, List.mem_cons_self, _, rfl⟩
    · obtain ⟨w, listed, same⟩ := ih t member
      exact ⟨w, List.mem_cons_of_mem _ listed, same⟩

/-- The transfers are what a journal has more. -/
lemma entries {j j' : Journal σ} (h : Written writes j new result j') :
    j'.entries = j.entries ++ new := by
  induction h with
  | done => exact (List.append_nil _).symm
  | @refused address value later j j' text fails =>
    have entry := Journal.entries_write address value j
    rw [fails] at entry
    exact entry
  | @written address value later j j' j'' new result succeeds _ ih =>
    have entry := Journal.entries_write address value j
    rw [succeeds] at entry
    rw [ih, entry, List.append_assoc]
    rfl

end Written

/-! ### The configuration -/

/-- The registers that a reset writes once it took, with the content that settings ask for. -/
def InForce.configuration (s : InForce) : List (UInt8 × UInt8) :=
  (Register.checked.toList.zip s.registers.toList).tail

/-- They are the checked registers but for the power register. -/
lemma InForce.exists_of_configuration {s : InForce} {w : UInt8 × UInt8}
    (member : w ∈ s.configuration) : ∃ i : Fin 8, i ≠ 0 ∧ w.1 = Register.checked.get i := by
  have addresses : s.configuration.map Prod.fst = Register.checked.toList.tail := rfl
  have listed : w.1 ∈ Register.checked.toList.tail := addresses ▸ List.mem_map_of_mem member
  have checked : ∀ address ∈ Register.checked.toList.tail,
      ∃ i : Fin 8, i ≠ 0 ∧ address = Register.checked.get i := by decide +kernel
  exact checked w.1 listed

namespace Driver

open Routine

variable {settings : InForce} {d : Driver σ} {k : Nat}

/-- While the configuration asks for certain settings, a routine writes registers, and fails if a
write does. It leaves the counts, and what the configuration asks for. -/
def Writes (settings : InForce) (writes : List (UInt8 × UInt8)) (x : Routine σ Unit) : Prop :=
  ∀ d, d.config.settings = settings →
    (∃ new, Written writes d.bus new (x d).1 (x d).2.bus) ∧ (x d).2.stats = d.stats ∧
      (x d).2.config.settings = settings

namespace Writes

variable {writes later : List (UInt8 × UInt8)} {x y : Routine σ Unit}

lemma update {f : Driver σ → Driver σ} (bus : ∀ d, (f d).bus = d.bus)
    (stats : ∀ d, (f d).stats = d.stats)
    (config : ∀ d, d.config.settings = settings → (f d).config.settings = settings) :
    Writes settings [] (update f) :=
  fun d asked => ⟨⟨[], bus d ▸ .done _⟩, stats d, config d asked⟩

lemma delay (us : UInt64) : Writes settings [] (delay us : Routine σ Unit) :=
  update (fun _ => rfl) (fun _ => rfl) fun _ asked => asked

lemma look {f : Driver σ → Routine σ Unit}
    (hf : ∀ d, d.config.settings = settings → Writes settings writes (f d)) :
    Writes settings writes (look >>= f) :=
  fun d asked => hf d asked d asked

lemma single (address value : UInt8) :
    Writes settings [(address, value)] (writeChecked address value : Routine σ Unit) := by
  intro d asked
  cases one : Transport.write address value d.bus with
  | mk result after =>
    rw [writeChecked, bind_apply, writeRaw_apply, one]
    cases result with
    | error text => exact ⟨⟨_, .refused one⟩, rfl, asked⟩
    | ok => exact ⟨⟨_, .written one (.done _)⟩, rfl, asked⟩

lemma bind (hx : Writes settings writes x) (hy : Writes settings later y) :
    Writes settings (writes ++ later) (do x; y) := by
  intro d asked
  have first := hx d asked
  rw [bind_apply]
  generalize x d = r at first ⊢
  obtain ⟨cause | ⟨⟩, d₁⟩ := r
  · obtain ⟨⟨new, written⟩, rest⟩ := first
    exact ⟨⟨new, written.append_of_error later⟩, rest⟩
  · obtain ⟨⟨new, written⟩, stats, config⟩ := first
    obtain ⟨⟨new', written'⟩, stats', config'⟩ := hy d₁ config
    exact ⟨⟨new ++ new', written.append written'⟩, stats'.trans stats, config'⟩

/-- A routine goes on after it wrote nothing. -/
lemma idle (hx : Writes settings [] x) (hy : Writes settings later y) :
    Writes settings later (do x; y) := hx.bind hy

/-- A routine goes on after it wrote one register. -/
lemma cons {address value : UInt8} (hx : Writes settings [(address, value)] x)
    (hy : Writes settings later y) : Writes settings ((address, value) :: later) (do x; y) :=
  hx.bind hy

end Writes

lemma programRate_writes (c : Configuration) :
    Writes c.settings [(Register.rateDivider, c.settings.rate.registerValue)]
      (programRate c.sampleRate : Routine σ Unit) :=
  (Writes.single _ _).bind (.update (fun _ => rfl) (fun _ => rfl) fun _ asked => asked)

lemma programOnChipFilter_writes (c : Configuration) :
    Writes c.settings [(Register.filterConfig, c.settings.onChipFilter.registerValue)]
      (programOnChipFilter c.onChipCutoff : Routine σ Unit) := by
  refine (Writes.single _ _).bind (.update (fun _ => rfl) (fun _ => rfl) fun d asked => ?_)
  simp_all [Configuration.settings]

/-- The full scale taken over is asked for in other words. -/
lemma programFullScale_writes (c : Configuration) :
    Writes c.settings [(Register.accelConfig, c.settings.fullScale.registerValue)]
      (programFullScale c.rangeG : Routine σ Unit) := by
  refine (Writes.single _ _).bind (.update (fun _ => rfl) (fun _ => rfl) fun d asked => ?_)
  simp_all [Configuration.settings, FullScale.covering_multiple]

lemma configure_writes : Writes settings settings.configuration (configure (σ := σ)) := by
  change Writes settings [(Register.userControl, 0),
    (Register.rateDivider, settings.rate.registerValue),
    (Register.filterConfig, settings.onChipFilter.registerValue),
    (Register.gyroConfig, Register.gyroWidest),
    (Register.accelConfig, settings.fullScale.registerValue),
    (Register.interruptEnable, Register.dataReady),
    (Register.interruptPin, Register.anyReadClears)] configure
  refine .cons (.single _ _) (.idle (.delay _) (.look fun d asked => ?_))
  refine .cons (asked ▸ programRate_writes d.config) (.idle (.delay _) (.look fun d asked => ?_))
  refine .cons (asked ▸ programOnChipFilter_writes d.config) (.idle (.delay _) ?_)
  refine .cons (.single _ _) (.idle (.update (fun _ => rfl) (fun _ => rfl) fun _ asked => asked) ?_)
  refine .idle (.delay _) (.look fun d asked => ?_)
  refine .cons (asked ▸ programFullScale_writes d.config) (.idle (.delay _) ?_)
  exact .cons (.single _ _) (.idle (.delay _) (.cons (.single _ _) (.delay _)))

/-! ### Resets -/

/-- If no attempt takes, that is all there is. -/
lemma reset_of_vain (vain : ∀ j < resetAttempts, ¬Attempt.Takes d.bus j) :
    (reset d).1 = .error (.unavailable resetAttempts) ∧
      Retried d (Attempt.times d.bus resetAttempts) resetAttempts (reset d).2 := by
  obtain ⟨d', runs, retried⟩ := attemptResets_of_all_vain 1 0 vain
  have runs : attemptResets 1 resetAttempts d = (.ok false, d') := runs
  rw [reset, bind_of_ok _ runs]
  exact ⟨rfl, retried.bus, retried.stats, retried.config⟩

/-- Once an attempt takes, the rest is the writing of the configuration. -/
lemma reset_of_taken (within : k < resetAttempts) (takes : Attempt.Takes d.bus k)
    (first : ∀ j < k, ¬Attempt.Takes d.bus j) :
    (∃ new, Written d.config.settings.configuration (Attempt.times d.bus (k + 1)) new (reset d).1
        (reset d).2.bus) ∧
      (reset d).2.stats = { d.stats with resetRetries := d.stats.resetRetries + k } := by
  obtain ⟨left, enough⟩ : ∃ left, resetAttempts = k + (left + 1) :=
    ⟨resetAttempts - (k + 1), by omega⟩
  obtain ⟨d₁, skips, vainly⟩ := attemptResets_of_all_vain 1 (left + 1) first
  have taken : (Attempt.once d₁.bus).1 = true := by rwa [vainly.bus]
  obtain ⟨d₂, took, retried⟩ := attemptResets_of_taken (1 + k) left taken
  have forgets : Writes d.config.settings [] (update fun d : Driver σ =>
      { d with watch := d.watch.clear }) :=
    .update (fun _ => rfl) (fun _ => rfl) fun _ asked => asked
  have asked : d₂.config.settings = d.config.settings := by rw [retried.config, vainly.config]
  obtain ⟨written, stats, -⟩ := configure_writes.bind forgets d₂ asked
  rw [List.append_nil, retried.bus, vainly.bus, ← Attempt.times_succ] at written
  rw [reset, enough, bind_of_ok _ (skips.trans took), if_pos rfl]
  exact ⟨written, stats.trans (retried.stats.trans (by rw [vainly.stats]; rfl))⟩

/-! ### Resets of a simulated sensor -/

open Simulation

/-- On a sensor that answers, checked registers are written. -/
lemma ok_of_answering {writes : List (UInt8 × UInt8)} {p after : FaultPlan Sensor}
    {new : List Transfer} {result : Except Failure Unit} (h : Written writes p new result after)
    (answering : p.Answering)
    (checked : ∀ w ∈ writes, ∃ i : Fin 8, w.1 = Register.checked.get i) : result = .ok () := by
  induction h with
  | done => rfl
  | @refused address value later p after text fails =>
    obtain ⟨i, same⟩ := checked _ List.mem_cons_self
    have succeeds := answering.write_checked i value
    cases same
    cases (congrArg Prod.fst fails).symm.trans succeeds
  | @written address value later p between after new result succeeds _ ih =>
    have kept := FaultPlan.answering_invariant.write address value answering
    rw [succeeds] at kept
    exact ih kept fun w member => checked w (List.mem_cons_of_mem _ member)

lemma reset_ok_iff_of_answering {d : Driver (FaultPlan Sensor)} (answering : d.bus.Answering) :
    (reset d).1 = .ok () ↔ d.bus.inner.stuckResets < resetAttempts := by
  have takes := Attempt.takes_iff_of_answering answering
  constructor
  · intro success
    by_contra many
    have vain : ∀ j < resetAttempts, ¬Attempt.Takes d.bus j := fun j below took =>
      many (((takes j).mp took).trans_lt below)
    cases success.symm.trans (reset_of_vain vain).1
  · intro few
    have first : ∀ j < d.bus.inner.stuckResets, ¬Attempt.Takes d.bus j := fun j below took =>
      absurd ((takes j).mp took) (Nat.not_le.mpr below)
    obtain ⟨⟨new, written⟩, -⟩ := reset_of_taken few ((takes _).mpr le_rfl) first
    have answering := (Attempt.times_of_answering answering (d.bus.inner.stuckResets + 1)).1
    refine ok_of_answering written answering fun w member => ?_
    obtain ⟨i, -, same⟩ := InForce.exists_of_configuration member
    exact ⟨i, same⟩

/-! ### The law of retries -/

variable {d : Driver (Journal σ)}

/-- What follows the first attempt that takes. -/
lemma configuring_of_taken (within : k < resetAttempts) (takes : Attempt.Takes d.bus k)
    (first : ∀ j < k, ¬Attempt.Takes d.bus j) :
    ∃ configuring,
      Written d.config.settings.configuration (Attempt.times d.bus (k + 1)) configuring (reset d).1
        (reset d).2.bus ∧
      (reset d).2.bus.entries = (Attempt.times d.bus (k + 1)).entries ++ configuring ∧
      ∀ t ∈ configuring, t.isCommand = false := by
  obtain ⟨⟨configuring, written⟩, -⟩ := reset_of_taken within takes first
  refine ⟨configuring, written, written.entries, fun t member => ?_⟩
  obtain ⟨w, listed, succeeded, rfl⟩ := written.addressed t member
  obtain ⟨i, other, same⟩ := InForce.exists_of_configuration listed
  simp [Transfer.isCommand, same, other]

/-- The attempts are all the commands to reset. -/
lemma commands_of_taken (within : k < resetAttempts) (takes : Attempt.Takes d.bus k)
    (first : ∀ j < k, ¬Attempt.Takes d.bus j) :
    ∃ new, (reset d).2.bus.entries = d.bus.entries ++ new ∧
      new.countP Transfer.isCommand = k + 1 := by
  obtain ⟨attempts, entries, commands, -⟩ := Attempt.spent_times d.bus (k + 1)
  obtain ⟨configuring, -, entries', settings⟩ := configuring_of_taken within takes first
  refine ⟨attempts ++ configuring, by rw [entries', entries, List.append_assoc], ?_⟩
  have none : configuring.countP Transfer.isCommand = 0 :=
    List.countP_eq_zero.mpr fun t member => Bool.eq_false_iff.mp (settings t member)
  rw [List.countP_append, commands, none]

/-- Whatever the state of the driver and the behaviour of the bus, a reset is tried four times at
most. It fails for want of a reset that takes exactly if all four attempts are vain; then four
retries are counted, and no register but the power register is written. If the attempt after `k`
vain ones is the first to take, `k` retries are counted, and what follows it is the writing of the
configuration, without another command to reset: the reset fails only with a write that does. On a
simulated sensor that answers, with any number of resets that do not take, a reset succeeds exactly
if they are at most three. -/
theorem reset_takes_within_four_attempts :
    (∀ (σ : Type) [Transport σ] (d : Driver (Journal σ)),
      (∃ new, (reset d).2.bus.entries = d.bus.entries ++ new ∧
        new.countP Transfer.isCommand ≤ 4) ∧
      ((reset d).1 = .error (.unavailable 4) ↔ ∀ k < 4, ¬Attempt.Takes d.bus k) ∧
      ((∀ k < 4, ¬Attempt.Takes d.bus k) →
        (reset d).2.stats.resetRetries = d.stats.resetRetries + 4 ∧
          Attempt.Spent 4 d.bus (reset d).2.bus) ∧
      ∀ k < 4, Attempt.Takes d.bus k → (∀ j < k, ¬Attempt.Takes d.bus j) →
        (reset d).2.stats.resetRetries = d.stats.resetRetries + k ∧
          Attempt.Spent (k + 1) d.bus (Attempt.times d.bus (k + 1)) ∧
          ∃ configuring,
            Written d.config.settings.configuration (Attempt.times d.bus (k + 1)) configuring
              (reset d).1 (reset d).2.bus ∧
            (reset d).2.bus.entries = (Attempt.times d.bus (k + 1)).entries ++ configuring ∧
            ∀ t ∈ configuring, t.isCommand = false) ∧
    ∀ d : Driver (FaultPlan Sensor), d.bus.Answering →
      ((reset d).1 = .ok () ↔ d.bus.inner.stuckResets ≤ 3) := by
  refine ⟨fun σ _ d => ⟨?_, ⟨?_, ?_⟩, ?_, ?_⟩, fun d answering => ?_⟩
  · rcases Attempt.vain_or_first d.bus 4 with vain | ⟨k, within, takes, first⟩
    · obtain ⟨new, entries, commands, -⟩ := Attempt.spent_times d.bus 4
      rw [(reset_of_vain vain).2.bus]
      exact ⟨new, entries, commands.le⟩
    · obtain ⟨new, entries, commands⟩ := commands_of_taken within takes first
      exact ⟨new, entries, commands.trans_le within⟩
  · intro unavailable
    rcases Attempt.vain_or_first d.bus 4 with vain | ⟨k, within, takes, first⟩
    · exact vain
    · obtain ⟨configuring, written, -⟩ := configuring_of_taken within takes first
      rw [unavailable] at written
      obtain ⟨text, impossible⟩ := written.exists_text
      cases impossible
  · exact fun vain => (reset_of_vain vain).1
  · intro vain
    obtain ⟨-, retried⟩ := reset_of_vain vain
    refine ⟨by rw [retried.stats]; rfl, ?_⟩
    rw [retried.bus]
    exact Attempt.spent_times d.bus 4
  · intro k within takes first
    refine ⟨by rw [(reset_of_taken within takes first).2], Attempt.spent_times d.bus (k + 1), ?_⟩
    exact configuring_of_taken within takes first
  · exact (reset_ok_iff_of_answering answering).trans Nat.lt_succ_iff

/-- A new sensor with resets that do not take, behind faults. -/
def reluctant (stuck : Nat) (plan : List Fault) : FaultPlan Sensor :=
  ⟨{ Sensor.new .internal with stuckResets := stuck }, plan⟩

/-- Four attempts of which the first is refused, the second is answered with two bytes, the third
does not take, and the fourth is followed by a write that fails; four attempts in vain; and as many
resets that do not take as can be. -/
theorem reset_of_reluctant_sensor :
    let faults := [.fail, .pass, .claim 2, .pass, .pass, .pass, .pass, .pass, .pass, .pass, .fail]
    let hard : Driver (Journal (FaultPlan Sensor)) := .new ⟨reluctant 2 faults, []⟩ .start {}
    let hopeless : Driver (Journal (FaultPlan Sensor)) := .new ⟨reluctant 4 [], []⟩ .start {}
    ((reset hard).1.isOk = false ∧ (reset hard).2.stats.resetRetries = 3 ∧
      Attempt.Spent 4 hard.bus (Attempt.times hard.bus 4)) ∧
    ((reset hopeless).1 = .error (.unavailable 4) ∧ (reset hopeless).2.stats.resetRetries = 4) ∧
    (reset (.new (reluctant 3 []) .start {})).1 = .ok () := by
  intro faults hard hopeless
  obtain ⟨-, -, -, taken⟩ :=
    reset_takes_within_four_attempts.1 (FaultPlan Sensor) hard
  obtain ⟨-, unavailable, vainly, -⟩ :=
    reset_takes_within_four_attempts.1 (FaultPlan Sensor) hopeless
  obtain ⟨retries, spent, -⟩ := taken 3 (by decide) (by decide +kernel) (by decide +kernel)
  have vain : ∀ k < 4, ¬Attempt.Takes hopeless.bus k := by decide +kernel
  refine ⟨⟨by decide +kernel, retries, spent⟩, ⟨unavailable.mpr vain, (vainly vain).1⟩, ?_⟩
  exact (reset_takes_within_four_attempts.2 (.new (reluctant 3 []) .start {}) ⟨rfl, rfl⟩).mpr le_rfl

end Driver

end InertialSensor
