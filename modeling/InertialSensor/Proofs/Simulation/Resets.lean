import InertialSensor.Proofs.Simulation.Registers

/-!
# Resets of the simulated sensor

The simulated sensor counts its resets, and the count tells whether a command to reset has reached
it: every other transfer leaves the count alone, and a command that leaves it alone changes no
register.
-/

namespace InertialSensor.Simulation

open Register Driver

/-! ### The sensor -/

namespace Sensor

variable {s : Sensor}

/-- The resets so far, and those yet not to take. -/
def resetCounts (s : Sensor) : Nat × Nat := (s.resets, s.stuckResets)

lemma resetCounts_nextSample (s : Sensor) : s.nextSample.2.resetCounts = s.resetCounts := by
  unfold nextSample
  split
  · rfl
  · split
    · rfl
    · rfl

lemma resetCounts_loadSample (s : Sensor) : s.loadSample.resetCounts = s.resetCounts := by
  rw [← resetCounts_nextSample s, loadSample_eq]
  simp only [resetCounts]

lemma resetCounts_read {n : Nat} (address : UInt8) (speed : Speed) (buffer : Vector UInt8 n)
    (s : Sensor) : (s.read address speed buffer).2.resetCounts = s.resetCounts := by
  unfold read
  generalize loaded : { s with log := .read address speed n :: s.log } = s₁
  have logged : s₁.resetCounts = s.resetCounts := loaded ▸ rfl
  dsimp only
  split
  · exact logged
  · split
    · exact logged
    · generalize addressed : (if address = interruptStatus ∧ 1 < n then s₁.loadSample else s₁) = s₂
      have loaded : s₂.resetCounts = s.resetCounts := by
        rw [← addressed]
        split
        · exact (resetCounts_loadSample s₁).trans logged
        · exact logged
      split
      · exact loaded
      · exact loaded

/-- A write leaves the counts alone if it is a setting or fails, and otherwise is a command that
reaches the sensor. -/
lemma resetCounts_write (address value : UInt8) (s : Sensor) :
    (IsSetting address value ∨ ∃ refusal, (s.write address value).1 = .error refusal) ∧
        (s.write address value).2.resetCounts = s.resetCounts ∨
      ¬IsSetting address value ∧ (s.write address value).1 = .ok () ∧
        (s.write address value).2.resetCounts = (s.resets + 1, s.stuckResets - 1) := by
  unfold write
  dsimp only
  split
  · exact .inl ⟨.inr ⟨_, rfl⟩, rfl⟩
  · split
    · next command =>
      refine .inr ⟨fun setting => command.2 (setting command.1), rfl, ?_⟩
      unfold reset
      dsimp only
      split
      · rfl
      · next free =>
        have none : s.stuckResets = 0 := by simpa using free
        simp only [resetCounts, none]
    · next other =>
      have setting : IsSetting address value := fun same => by
        by_contra sets
        exact other ⟨same, sets⟩
      split
      · exact .inl ⟨.inl setting, rfl⟩
      · split
        · exact .inl ⟨.inl setting, rfl⟩
        · exact .inl ⟨.inl setting, rfl⟩

/-- After a reset that takes, the power register holds what it does after power-on. -/
lemma register?_of_reset (answers : s.silent = false) (unstuck : s.stuckResets = 0) :
    (s.write power resetBit).2.register? power = some asleep := by
  have command : power = power ∧ resetBit &&& resetBit ≠ 0 := by decide
  have content : powerOn[power.toNat]? = some asleep := by decide +kernel
  unfold write reset
  dsimp only
  rw [if_neg (by rw [answers]; decide), if_pos command, if_neg (by rw [unstuck]; decide)]
  exact content

end Sensor

/-! ### A sensor behind planned faults -/

namespace FaultPlan

lemma resetCounts_read {n : Nat} (address : UInt8) (speed : Speed) (buffer : Vector UInt8 n)
    (p : FaultPlan Sensor) :
    (Transport.read address speed buffer p).2.inner.resetCounts = p.inner.resetCounts := by
  rcases read_cases address speed buffer p with failed | reached
  · rw [failed, inner_next]
  · rw [reached]
    exact Sensor.resetCounts_read address speed buffer p.inner

lemma resetCounts_write (address value : UInt8) (p : FaultPlan Sensor) :
    (IsSetting address value ∨ ∃ text, (Transport.write address value p).1 = .error text) ∧
        (Transport.write address value p).2.inner.resetCounts = p.inner.resetCounts ∨
      ¬IsSetting address value ∧ (Transport.write address value p).1 = .ok () ∧
        (Transport.write address value p).2.inner.resetCounts =
          (p.inner.resets + 1, p.inner.stuckResets - 1) := by
  rcases write_cases address value p with failed | reached
  · rw [failed, inner_next]
    exact .inl ⟨.inr ⟨_, rfl⟩, rfl⟩
  · rw [reached, Sensor.transport_write]
    rcases Sensor.resetCounts_write address value p.inner with
      ⟨setting | ⟨refusal, failed⟩, same⟩ | ⟨command, done, counted⟩
    · exact .inl ⟨.inl setting, same⟩
    · rw [failed]
      exact .inl ⟨.inr ⟨_, rfl⟩, same⟩
    · rw [done]
      exact .inr ⟨command, rfl, counted⟩

/-- A setting leaves the counts alone. -/
lemma resetCounts_of_setting {address value : UInt8} (setting : IsSetting address value)
    (p : FaultPlan Sensor) :
    (Transport.write address value p).2.inner.resetCounts = p.inner.resetCounts := by
  rcases resetCounts_write address value p with ⟨-, same⟩ | ⟨command, -⟩
  · exact same
  · exact absurd setting command

/-- A write that fails leaves the counts alone. -/
lemma resetCounts_of_error {address value : UInt8} {p : FaultPlan Sensor} {text : String}
    (failed : (Transport.write address value p).1 = .error text) :
    (Transport.write address value p).2.inner.resetCounts = p.inner.resetCounts := by
  rcases resetCounts_write address value p with ⟨-, same⟩ | ⟨-, done, -⟩
  · exact same
  · cases done.symm.trans failed

/-- The count of resets never goes down. -/
lemma resets_le_write (address value : UInt8) (p : FaultPlan Sensor) :
    p.inner.resets ≤ (Transport.write address value p).2.inner.resets := by
  rcases resetCounts_write address value p with ⟨-, same⟩ | ⟨-, -, counted⟩
  · exact (congrArg Prod.fst same).ge
  · exact (Nat.le_succ _).trans (congrArg Prod.fst counted).ge

/-- A command to reset that leaves the count alone changes no register. -/
lemma write_of_uncounted {address value : UInt8} {p : FaultPlan Sensor}
    (command : ¬IsSetting address value)
    (uncounted : (Transport.write address value p).2.inner.resets = p.inner.resets) :
    Sensor.Undisturbed p.inner (Transport.write address value p).2.inner := by
  rcases resetCounts_write address value p with ⟨setting | ⟨text, failed⟩, -⟩ | ⟨-, -, counted⟩
  · exact absurd setting command
  · exact write_of_error failed
  · have more := (congrArg Prod.fst counted).symm.trans uncounted
    exact absurd more (Nat.succ_ne_self _)

/-! ### A dependable sensor -/

/-- No transfer fails or comes back short, and every reset takes. -/
structure Dependable (p : FaultPlan Sensor) : Prop extends Reliable p where
  unstuck : p.inner.stuckResets = 0

lemma dependable_invariant : BusInvariant Dependable where
  read address speed buffer p h := by
    have same := resetCounts_read address speed buffer p
    exact ⟨reliable_invariant.read address speed buffer h.toReliable,
      (congrArg Prod.snd same).trans h.unstuck⟩
  write address value p h := by
    refine ⟨reliable_invariant.write address value h.toReliable, ?_⟩
    rcases resetCounts_write address value p with ⟨-, same⟩ | ⟨-, -, counted⟩
    · exact (congrArg Prod.snd same).trans h.unstuck
    · exact (congrArg Prod.snd counted).trans (by rw [h.unstuck])

lemma Dependable.register?_of_reset {p : FaultPlan Sensor} (h : p.Dependable) :
    (Transport.write power resetBit p).2.inner.register? power = some asleep := by
  rw [h.answering.write_eq]
  exact Sensor.register?_of_reset h.answers h.unstuck

end FaultPlan

end InertialSensor.Simulation
