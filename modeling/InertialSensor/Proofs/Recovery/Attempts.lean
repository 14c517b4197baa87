import InertialSensor.Proofs.Driver.Journal
import InertialSensor.Proofs.Simulation.Resets

/-!
# Attempts to reset the chip

Whether an attempt takes depends on the bus alone. `Attempt.once` tells it from the bus: there are
up to four transfers, and each of them can go wrong in its own way. The driver's attempts mirror
this (`tryReset_mirrors`), so that attempts in succession are known from the bus as well
(`attemptResets_of_all_vain`).

Every attempt is one command and concerns the power register only (`Attempt.spent_once`). On a
simulated sensor that answers, the attempts take from the first reset on that does
(`Attempt.takes_iff_of_answering`).
-/

namespace InertialSensor

open Register

/-! ### Attempts, told from the bus -/

namespace Attempt

variable {σ : Type} [Transport σ]

/-- What a register is read as, if the read claims just one byte, and the bus after the read. -/
def byte (address : UInt8) (speed : Speed) (bus : σ) : Option UInt8 × σ :=
  match Transport.read address speed (Vector.replicate 1 0) bus with
  | (.error _, bus) => (none, bus)
  | (.ok reading, bus) => (if reading.count = 1 then some (reading.bytes.get 0) else none, bus)

/-- The second half of an attempt: the best clock is chosen, and has to be read back. -/
def clock (bus : σ) : Bool × σ :=
  match Transport.write power bestClock bus with
  | (.error _, bus) => (false, bus)
  | (.ok _, bus) =>
    match byte power .low bus with
    | (none, bus) => (false, bus)
    | (some source, bus) => (source = bestClock, bus)

/-- One attempt: whether the chip then runs from its best clock, and the bus after it. An attempt
ends with the first transfer that fails, or if the chip is still being reset. -/
def once (bus : σ) : Bool × σ :=
  match Transport.write power resetBit bus with
  | (.error _, bus) => (false, bus)
  | (.ok _, bus) =>
    match byte power .high bus with
    | (none, bus) => (false, bus)
    | (some status, bus) => if status &&& resetBit ≠ 0 then (false, bus) else clock bus

/-- The bus after a number of attempts. -/
def times (bus : σ) : Nat → σ
  | 0 => bus
  | k + 1 => times (once bus).2 k

/-- The attempt after `k` others takes. -/
def Takes (bus : σ) (k : Nat) : Prop := (once (times bus k)).1 = true

instance (bus : σ) (k : Nat) : Decidable (Takes bus k) :=
  inferInstanceAs (Decidable ((once (times bus k)).1 = true))

lemma times_succ (bus : σ) (k : Nat) : times bus (k + 1) = (once (times bus k)).2 := by
  induction k generalizing bus with
  | zero => rfl
  | succ k ih => exact ih (once bus).2

/-- There is a first attempt that takes, unless all are vain. -/
lemma vain_or_first (bus : σ) (n : Nat) :
    (∀ k < n, ¬Takes bus k) ∨ ∃ k < n, Takes bus k ∧ ∀ j < k, ¬Takes bus j := by
  by_cases some : ∃ k, Takes bus k
  · by_cases within : Nat.find some < n
    · exact .inr ⟨Nat.find some, within, Nat.find_spec some, fun j => Nat.find_min some⟩
    · exact .inl fun k below => Nat.find_min some (below.trans_le (Nat.not_lt.mp within))
  · exact .inl fun k _ takes => some ⟨k, takes⟩

end Attempt

/-! ### Attempts of the driver -/

namespace Driver

open Routine

variable {σ : Type} [Transport σ] {d : Driver σ} {k : Nat}

/-- Whether an attempt took. -/
def verdict : Except Failure Bool → Bool
  | .ok took => took
  | .error _ => false

/-- Reading a register answers with the byte, or fails if there is none. -/
lemma readRegister_cases (address : UInt8) (speed : Speed) (d : Driver σ) :
    (∃ cause after, Attempt.byte address speed d.bus = (none, after) ∧
        readRegister address speed d = (.error cause, { d with bus := after })) ∨
      ∃ found after, Attempt.byte address speed d.bus = (some found, after) ∧
        readRegister address speed d = (.ok found, { d with bus := after }) := by
  simp only [Attempt.byte, readRegister, readExactly, bind_apply, readInto_apply]
  generalize Transport.read address speed (Vector.replicate 1 0) d.bus = r
  obtain ⟨text | reading, after⟩ := r
  · exact .inl ⟨_, _, rfl, rfl⟩
  · by_cases one : reading.count = 1
    · simp only [Except.mapError, if_pos one, pure_apply]
      exact .inr ⟨_, _, rfl, rfl⟩
    · simp only [Except.mapError, if_neg one, fail_apply]
      exact .inl ⟨_, _, rfl, rfl⟩

/-- A routine does to the bus what `f` does, and comes to the same verdict. Aside from the bus, it
changes the clock and the watch at most. -/
def Mirrors (f : σ → Bool × σ) (x : Routine σ Bool) : Prop :=
  ∀ d, ∃ result clock watch,
    x d = (result, { d with bus := (f d.bus).2, clock := clock, watch := watch }) ∧
      verdict result = (f d.bus).1

namespace Mirrors

variable {f : σ → Bool × σ} {x : Routine σ Bool}

omit [Transport σ] in
lemma pure (took : Bool) : Mirrors (fun bus => (took, bus)) (pure took : Routine σ Bool) :=
  fun _ => ⟨_, _, _, rfl, rfl⟩

omit [Transport σ] in
lemma delay (us : UInt64) (hx : Mirrors f x) : Mirrors f (do delay us; x) := by
  intro d
  obtain ⟨result, clock, watch, runs, same⟩ := hx { d with clock := d.clock.advance us }
  exact ⟨result, clock, watch, runs, same⟩

lemma writeRaw (address value : UInt8) (hx : Mirrors f x) :
    Mirrors (fun bus => match Transport.write address value bus with
      | (.error _, bus) => (false, bus)
      | (.ok _, bus) => f bus) (do writeRaw address value; x) := by
  intro d
  simp only [bind_apply, writeRaw_apply]
  generalize Transport.write address value d.bus = r
  obtain ⟨text | ⟨⟩, after⟩ := r
  · exact ⟨_, _, _, rfl, rfl⟩
  · obtain ⟨result, clock, watch, runs, same⟩ := hx { d with bus := after }
    exact ⟨result, clock, watch, runs, same⟩

lemma writeChecked (address value : UInt8) (hx : Mirrors f x) :
    Mirrors (fun bus => match Transport.write address value bus with
      | (.error _, bus) => (false, bus)
      | (.ok _, bus) => f bus) (do writeChecked address value; x) := by
  intro d
  rw [Driver.writeChecked, bind_assoc]
  refine writeRaw address value (x := do update _; x) ?_ d
  intro d
  obtain ⟨result, clock, watch, runs, same⟩ := hx { d with watch := d.watch.record address value }
  exact ⟨result, clock, watch, runs, same⟩

lemma readRegister {g : UInt8 → σ → Bool × σ} {y : UInt8 → Routine σ Bool} (address : UInt8)
    (speed : Speed) (hy : ∀ found, Mirrors (g found) (y found)) :
    Mirrors (fun bus => match Attempt.byte address speed bus with
      | (none, bus) => (false, bus)
      | (some found, bus) => g found bus) (readRegister address speed >>= y) := by
  intro d
  rcases readRegister_cases address speed d with
    ⟨cause, after, read, fails⟩ | ⟨found, after, read, succeeds⟩
  · simp only [bind_apply, fails, read]
    exact ⟨_, _, _, rfl, rfl⟩
  · simp only [bind_apply, succeeds, read]
    exact hy found { d with bus := after }

end Mirrors

lemma tryReset_mirrors : Mirrors Attempt.once (tryReset (σ := σ)) := by
  refine .writeRaw _ _ (.delay _ (.readRegister _ _ fun status => ?_))
  by_cases resetting : status &&& resetBit ≠ 0
  · simp only [if_pos resetting]
    exact .pure false
  · simp only [if_neg resetting]
    exact .writeChecked _ _ (.delay _ (.readRegister _ _ fun source => .pure _))

/-! ### Attempts in succession -/

/-- After so many retries, the bus is in a given state, and the retries are counted. -/
structure Retried (d : Driver σ) (bus : σ) (k : Nat) (d' : Driver σ) : Prop where
  bus : d'.bus = bus
  stats : d'.stats = { d.stats with resetRetries := d.stats.resetRetries + k }
  config : d'.config = d.config

lemma attemptResets_of_taken (number left : Nat) (taken : (Attempt.once d.bus).1 = true) :
    ∃ d', attemptResets number (left + 1) d = (.ok true, d') ∧
      Retried d (Attempt.once d.bus).2 0 d' := by
  obtain ⟨result, clock, watch, runs, same⟩ := tryReset_mirrors d
  rw [attemptResets, bind_apply, attempt_apply, runs]
  rw [taken] at same
  cases result with
  | error cause => cases same
  | ok took =>
    cases same
    exact ⟨_, rfl, rfl, rfl, rfl⟩

lemma attemptResets_of_vain (number left : Nat) (vain : ¬(Attempt.once d.bus).1 = true) :
    ∃ d', attemptResets number (left + 1) d = attemptResets (number + 1) left d' ∧
      Retried d (Attempt.once d.bus).2 1 d' := by
  obtain ⟨result, clock, watch, runs, same⟩ := tryReset_mirrors d
  rw [attemptResets, bind_apply, attempt_apply, runs]
  rw [Bool.eq_false_iff.mpr vain] at same
  cases result with
  | error cause => exact ⟨_, rfl, rfl, rfl, rfl⟩
  | ok took =>
    cases same
    exact ⟨_, rfl, rfl, rfl, rfl⟩

/-- Vain attempts are counted, and the others follow. -/
lemma attemptResets_of_all_vain (number left : Nat) (vain : ∀ j < k, ¬Attempt.Takes d.bus j) :
    ∃ d', attemptResets number (k + left) d = attemptResets (number + k) left d' ∧
      Retried d (Attempt.times d.bus k) k d' := by
  induction k generalizing number d with
  | zero => exact ⟨d, by simp, rfl, rfl, rfl⟩
  | succ k ih =>
    obtain ⟨d₁, skips, first⟩ := attemptResets_of_vain number (k + left) (vain 0 k.succ_pos)
    have later : ∀ j < k, ¬Attempt.Takes d₁.bus j := by
      rw [first.bus]
      exact fun j below => vain (j + 1) (Nat.succ_lt_succ below)
    obtain ⟨d₂, skips', rest⟩ := ih (number + 1) later
    refine ⟨d₂, ?_, ?_, ?_, rest.config.trans first.config⟩
    · rw [Nat.add_right_comm, skips, skips', Nat.add_right_comm, Nat.add_assoc]
    · rw [rest.bus, first.bus]
      rfl
    · rw [rest.stats, first.stats]
      simp only [Nat.add_assoc, Nat.add_comm 1]

end Driver

/-! ### What attempts write down -/

namespace Transfer

/-- The register at which a transfer starts. -/
def address : Transfer → UInt8
  | .read address _ _ => address
  | .write address _ _ => address

/-- A command to reset the chip, whether it succeeds or fails. -/
def isCommand : Transfer → Bool
  | .read _ _ _ => false
  | .write address value _ => address = power ∧ value &&& resetBit ≠ 0

end Transfer

namespace Attempt

variable {σ : Type} [Transport σ] {k l : Nat} {j j' j'' : Journal σ}

/-- So many commands to reset were added to a journal, and nothing that concerns another register
than the power register. -/
def Spent (k : Nat) (j j' : Journal σ) : Prop :=
  ∃ new, j'.entries = j.entries ++ new ∧ new.countP Transfer.isCommand = k ∧
    ∀ t ∈ new, t.address = power

omit [Transport σ] in
lemma Spent.trans (h : Spent k j j') (h' : Spent l j' j'') : Spent (k + l) j j'' := by
  obtain ⟨new, entries, commands, addresses⟩ := h
  obtain ⟨new', entries', commands', addresses'⟩ := h'
  refine ⟨new ++ new', by rw [entries', entries, List.append_assoc], ?_, ?_⟩
  · rw [List.countP_append, commands, commands']
  · intro t member
    exact (List.mem_append.mp member).elim (addresses t) (addresses' t)

omit [Transport σ] in
lemma Spent.single {t : Transfer} (entries : j'.entries = j.entries ++ [t])
    (address : t.address = power) : Spent t.isCommand.toNat j j' := by
  refine ⟨[t], entries, ?_, by simpa⟩
  cases command : t.isCommand with
  | false => simp [command]
  | true => simp [command]

lemma spent_byte (speed : Speed) (j : Journal σ) : Spent 0 j (byte power speed j).2 := by
  have spent : Spent 0 j (Transport.read power speed (Vector.replicate 1 0) j).2 :=
    .single (Journal.entries_read ..) rfl
  simp only [byte]
  generalize Transport.read power speed (Vector.replicate 1 0) j = r at spent ⊢
  obtain ⟨_ | _, _⟩ := r
  · exact spent
  · exact spent

lemma spent_clock (j : Journal σ) : Spent 0 j (clock j).2 := by
  have spent : Spent 0 j (Transport.write power bestClock j).2 :=
    .single (Journal.entries_write ..) rfl
  simp only [clock]
  generalize Transport.write power bestClock j = r at spent ⊢
  obtain ⟨_ | _, j₁⟩ := r
  · exact spent
  · have spent := spent.trans (spent_byte .low j₁)
    dsimp only
    generalize byte power .low j₁ = r at spent ⊢
    obtain ⟨_ | _, _⟩ := r
    · exact spent
    · exact spent

/-- An attempt is one command, and concerns the power register only. -/
lemma spent_once (j : Journal σ) : Spent 1 j (once j).2 := by
  have spent : Spent 1 j (Transport.write power resetBit j).2 :=
    .single (Journal.entries_write ..) rfl
  simp only [once]
  generalize Transport.write power resetBit j = r at spent ⊢
  obtain ⟨_ | _, j₁⟩ := r
  · exact spent
  · have spent := spent.trans (spent_byte .high j₁)
    dsimp only
    generalize byte power .high j₁ = r at spent ⊢
    obtain ⟨_ | _, j₂⟩ := r
    · exact spent
    · dsimp only
      split
      · exact spent
      · exact spent.trans (spent_clock j₂)

lemma spent_times (j : Journal σ) (k : Nat) : Spent k j (times j k) := by
  induction k generalizing j with
  | zero => exact ⟨[], (List.append_nil _).symm, rfl, nofun⟩
  | succ k ih =>
    have spent := (spent_once j).trans (ih (once j).2)
    rwa [Nat.add_comm] at spent

end Attempt

/-! ### Attempts on a simulated sensor -/

namespace Simulation

/-- After a reset that does not take, the power register has the reset bit. -/
lemma Sensor.register?_of_stuck {s : Sensor} (answers : s.silent = false)
    (stuck : s.stuckResets ≠ 0) :
    (s.write power resetBit).2.register? power = some (asleep ||| resetBit) := by
  have command : power = power ∧ resetBit &&& resetBit ≠ 0 := by decide
  have content : (powerOn.set 0x6B (asleep ||| resetBit))[power.toNat]? =
      some (asleep ||| resetBit) := by decide +kernel
  unfold write reset
  dsimp only
  rw [if_neg (by rw [answers]; decide), if_pos command, if_pos (Nat.pos_of_ne_zero stuck)]
  exact content

end Simulation

namespace Attempt

open Simulation Driver

variable {p : FaultPlan Sensor}

/-- On a sensor that answers, the power register is read as what it holds. -/
lemma byte_of_content {value : UInt8} (h : p.Answering)
    (content : p.inner.register? power = some value) (speed : Speed) :
    ∃ after, byte power speed p = (some value, after) ∧ after.Answering ∧
      after.inner.stuckResets = p.inner.stuckResets := by
  obtain ⟨reading, read, count⟩ := h.read_checked 0 speed (Vector.replicate 1 0)
  have holds := h.honest.register?_of_read (i := 0) read
  have found : reading.bytes.get 0 = value := Option.some.inj (holds.symm.trans content)
  have answering := FaultPlan.answering_invariant.read power speed (Vector.replicate 1 0) h
  have counts := FaultPlan.resetCounts_read power speed (Vector.replicate 1 0) p
  generalize result : Transport.read power speed (Vector.replicate 1 0) p = r at answering counts
  refine ⟨r.2, ?_, answering, congrArg Prod.snd counts⟩
  obtain ⟨answer, after⟩ := r
  have read : answer = .ok reading := (congrArg Prod.fst result).symm.trans read
  simp only [byte, result, read, if_pos count, found]

/-- A command to reset leaves the reset bit as long as resets are stuck. -/
lemma command_of_answering (h : p.Answering) :
    ∃ after, Transport.write power resetBit p = (.ok (), after) ∧ after.Answering ∧
      after.inner.stuckResets = p.inner.stuckResets - 1 ∧
      after.inner.register? power =
        some (if p.inner.stuckResets = 0 then asleep else asleep ||| resetBit) := by
  have succeeds := h.write_checked 0 resetBit
  refine ⟨_, Prod.ext succeeds rfl, FaultPlan.answering_invariant.write power resetBit h, ?_, ?_⟩
  · rcases FaultPlan.resetCounts_write power resetBit p with
      ⟨setting | ⟨text, fails⟩, -⟩ | ⟨-, -, counted⟩
    · exact absurd (setting rfl) (by decide)
    · cases fails.symm.trans succeeds
    · exact congrArg Prod.snd counted
  · rw [h.write_eq]
    split
    · next free => exact Sensor.register?_of_reset h.answers free
    · next stuck => exact Sensor.register?_of_stuck h.answers stuck

lemma clock_of_answering (h : p.Answering) :
    ∃ after, clock p = (true, after) ∧ after.Answering ∧
      after.inner.stuckResets = p.inner.stuckResets := by
  have setting : IsSetting power bestClock := fun _ => by decide
  have succeeds := h.write_checked 0 bestClock
  have answering := FaultPlan.answering_invariant.write power bestClock h
  have content := FaultPlan.write_of_ok setting succeeds 0
  have counts := FaultPlan.resetCounts_of_setting setting p
  obtain ⟨after, source, answering, stuck⟩ := byte_of_content answering content .low
  refine ⟨after, ?_, answering, stuck.trans (congrArg Prod.snd counts)⟩
  rw [clock, show Transport.write power bestClock p = (.ok (), _) from Prod.ext succeeds rfl]
  simp only [source]
  rfl

/-- An attempt takes if its reset does. -/
lemma once_of_answering (h : p.Answering) :
    ((once p).1 = true ↔ p.inner.stuckResets = 0) ∧ (once p).2.Answering ∧
      (once p).2.inner.stuckResets = p.inner.stuckResets - 1 := by
  obtain ⟨p₁, command, h₁, counted, content⟩ := command_of_answering h
  obtain ⟨p₂, status, h₂, same⟩ := byte_of_content h₁ content .high
  by_cases free : p.inner.stuckResets = 0
  · obtain ⟨p₃, clocked, h₃, same'⟩ := clock_of_answering h₂
    have taken : once p = (true, p₃) := by
      rw [once, command]
      simp only [status, if_pos free]
      exact clocked
    rw [taken]
    exact ⟨by simp [free], h₃, same'.trans (same.trans counted)⟩
  · have vain : once p = (false, p₂) := by
      rw [once, command]
      simp only [status, if_neg free]
      rfl
    rw [vain]
    exact ⟨by simp [free], h₂, same.trans counted⟩

lemma times_of_answering (h : p.Answering) (k : Nat) :
    (times p k).Answering ∧ (times p k).inner.stuckResets = p.inner.stuckResets - k := by
  induction k generalizing p with
  | zero => exact ⟨h, rfl⟩
  | succ k ih =>
    obtain ⟨-, answering, stuck⟩ := once_of_answering h
    obtain ⟨answering, stuck'⟩ := ih answering
    exact ⟨answering, by rw [times, stuck', stuck, Nat.sub_sub, Nat.add_comm]⟩

/-- The attempts are vain whose resets do not take. -/
lemma takes_iff_of_answering (h : p.Answering) (k : Nat) :
    Takes p k ↔ p.inner.stuckResets ≤ k := by
  obtain ⟨answering, stuck⟩ := times_of_answering h k
  rw [Takes, (once_of_answering answering).1, stuck, Nat.sub_eq_zero_iff_le]

end Attempt

end InertialSensor
