import InertialSensor.Proofs.Driver.Invariant
import InertialSensor.Simulation.FaultPlan
import InertialSensor.Simulation.Sensor

/-!
# The checked registers of the simulated sensor

What transfers do to the checked registers of a simulated sensor, and what they tell about them. The
data block lies apart from the checked registers, so that no read changes them; a setting changes
the register it addresses and no other.

The same is said of a sensor behind planned faults, as long as no fault flips what is read.
-/

namespace InertialSensor.Simulation

open Register Driver

/-! ### The sensor -/

namespace Sensor

variable {s : Sensor}

/-- The data block lies apart from the checked registers. -/
lemma checked_apart : ∀ i : Fin 8, (checked.get i).toNat < interruptStatus.toNat ∨
    interruptStatus.toNat + blockSize ≤ (checked.get i).toNat := by
  decide

/-- Every checked register keeps what is written to it. -/
lemma checked_writable : ∀ i : Fin 8,
    ¬(checked.get i = identity ∨ checked.get i = interruptStatus) := by
  decide

lemma checked_lt : ∀ i : Fin 8, (checked.get i).toNat < Register.count := by decide

lemma getElem?_store_of_apart {bytes : List UInt8} {start i : Nat} {r : RegisterFile}
    (h : i < start ∨ start + bytes.length ≤ i) : (store bytes start r)[i]? = r[i]? := by
  induction bytes generalizing start r with
  | nil => rfl
  | cons b bs ih =>
    rw [List.length_cons] at h
    rw [store, ih (by omega), Vector.getElem?_setIfInBounds_ne]
    omega

/-- The checked registers are as before, and so is the way in which the sensor answers. -/
structure Undisturbed (s s' : Sensor) : Prop where
  registers : ∀ i : Fin 8, s'.register? (checked.get i) = s.register? (checked.get i)
  silent : s'.silent = s.silent
  shortReads : s'.shortReads ≤ s.shortReads

lemma Undisturbed.trans {s s' s'' : Sensor} (h : Undisturbed s s') (h' : Undisturbed s' s'') :
    Undisturbed s s'' where
  registers i := (h'.registers i).trans (h.registers i)
  silent := h'.silent.trans h.silent
  shortReads := h'.shortReads.trans h.shortReads

lemma nextSample_eq (s : Sensor) : s.nextSample.2.registers = s.registers ∧
    s.nextSample.2.silent = s.silent ∧ s.nextSample.2.shortReads = s.shortReads := by
  unfold nextSample
  split
  · exact ⟨rfl, rfl, rfl⟩
  · split
    · exact ⟨rfl, rfl, rfl⟩
    · exact ⟨rfl, rfl, rfl⟩

lemma loadSample_eq (s : Sensor) : s.loadSample =
    { s.nextSample.2 with
      blockReads := s.nextSample.2.blockReads + 1
      registers := store (s.nextSample.1.block dataReady).toList interruptStatus.toNat
        s.nextSample.2.registers } := rfl

lemma loadSample_undisturbed (s : Sensor) : Undisturbed s s.loadSample := by
  obtain ⟨registers, silent, shortReads⟩ := nextSample_eq s
  rw [loadSample_eq]
  refine ⟨fun i => ?_, silent, shortReads.le⟩
  simp only [register?]
  rw [getElem?_store_of_apart, registers]
  rw [Vector.length_toList]
  exact checked_apart i

/-- No read changes a checked register. -/
lemma read_undisturbed {n : Nat} (address : UInt8) (speed : Speed) (buffer : Vector UInt8 n)
    (s : Sensor) : Undisturbed s (s.read address speed buffer).2 := by
  unfold read
  generalize loaded : { s with log := .read address speed n :: s.log } = s₁
  have logged : Undisturbed s s₁ := loaded ▸ ⟨fun _ => rfl, rfl, le_rfl⟩
  dsimp only
  split
  · exact logged
  · split
    · exact logged
    · generalize addressed : (if address = interruptStatus ∧ 1 < n then s₁.loadSample else s₁) = s₂
      have loaded : Undisturbed s s₂ := by
        rw [← addressed]
        split
        · exact logged.trans (loadSample_undisturbed s₁)
        · exact logged
      split
      · exact loaded.trans ⟨fun _ => rfl, rfl, Nat.sub_le _ _⟩
      · exact loaded

lemma read_checked_eq (i : Fin 8) (speed : Speed) (buffer : Vector UInt8 1)
    (answers : s.silent = false) :
    s.read (checked.get i) speed buffer =
      (.ok ⟨copyOut s.registers (checked.get i).toNat buffer, 1⟩,
        { s with log := .read (checked.get i) speed 1 :: s.log }) := by
  have single : ¬(checked.get i = interruptStatus ∧ 1 < 1) := fun both => absurd both.2 (by decide)
  have inside : ¬Register.count < (checked.get i).toNat := (checked_lt i).le.not_gt
  have available : min (Register.count - (checked.get i).toNat) 1 = 1 := by
    have := checked_lt i
    omega
  unfold read
  dsimp only
  rw [if_neg (by rw [answers]; decide), if_neg inside, if_neg single,
    if_neg fun both => single both.1, available]

lemma getElem?_copyOut {r : RegisterFile} {start : Nat} (buffer : Vector UInt8 1)
    (inside : start < Register.count) : some ((copyOut r start buffer).get 0) = r[start]? := by
  rw [copyOut, Vector.get_ofFn]
  simp [inside]

/-- A silent sensor answers no read. -/
lemma read_of_silent {n : Nat} {address : UInt8} {speed : Speed} {buffer : Vector UInt8 n}
    (silent : s.silent = true) : (s.read address speed buffer).1 = .error .noResponse := by
  rw [read, if_pos (by exact silent)]

/-- A checked register that is read has the content read. -/
lemma register?_of_read {i : Fin 8} {speed : Speed} {buffer : Vector UInt8 1} {reading : Reading 1}
    (read : (s.read (checked.get i) speed buffer).1 = .ok reading) :
    s.register? (checked.get i) = some (reading.bytes.get 0) := by
  cases answers : s.silent with
  | true =>
    cases (read_of_silent answers).symm.trans read
  | false =>
    rw [read_checked_eq i speed buffer answers] at read
    cases read
    exact (getElem?_copyOut buffer (checked_lt i)).symm

/-- A write that fails is logged, and changes nothing else. -/
lemma write_of_refused {address value : UInt8} {refusal : Refusal}
    (failed : (s.write address value).1 = .error refusal) :
    (s.write address value).2 = { s with log := .write address value :: s.log } := by
  unfold write at failed ⊢
  dsimp only at failed ⊢
  split
  · rfl
  · split
    · next silent command =>
      rw [if_neg silent, if_pos command] at failed
      cases failed
    · split
      · rfl
      · split
        · next silent command fixed inside =>
          rw [if_neg silent, if_neg command, if_neg fixed, dif_pos inside] at failed
          cases failed
        · rfl

/-- A write that fails changes no register. -/
lemma write_of_error {address value : UInt8} {refusal : Refusal}
    (failed : (s.write address value).1 = .error refusal) :
    Undisturbed s (s.write address value).2 := by
  rw [write_of_refused failed]
  exact ⟨fun _ => rfl, rfl, le_rfl⟩

/-- A setting that succeeds changes only the register that it addresses. -/
lemma write_of_ok {address value : UInt8} (setting : IsSetting address value)
    (succeeds : (s.write address value).1 = .ok ()) (i : Fin 8) :
    (s.write address value).2.register? (checked.get i) =
      if checked.get i = address then some value else s.register? (checked.get i) := by
  have gentle : ¬(address = power ∧ value &&& resetBit ≠ 0) := fun both => both.2 (setting both.1)
  unfold write at succeeds ⊢
  dsimp only at succeeds ⊢
  rw [if_neg gentle] at succeeds ⊢
  split
  · next silent =>
    rw [if_pos silent] at succeeds
    cases succeeds
  · split
    · next fixed =>
      have other : checked.get i ≠ address := by
        rintro rfl
        exact checked_writable i fixed
      rw [if_neg other]
      rfl
    · split
      · simp only [register?]
        split
        · next same => rw [same, Vector.getElem?_set_self]
        · next other =>
          rw [Vector.getElem?_set_ne]
          exact fun same => other (UInt8.toNat_inj.mp same.symm)
      · next silent fixed outside =>
        rw [if_neg silent, if_neg fixed, dif_neg outside] at succeeds
        cases succeeds

/-- No write changes the way in which the sensor answers. -/
lemma write_answers (address value : UInt8) (s : Sensor) :
    (s.write address value).2.silent = s.silent ∧
      (s.write address value).2.shortReads = s.shortReads := by
  unfold write reset
  dsimp only
  repeat' split
  all_goals exact ⟨rfl, rfl⟩

lemma write_checked_ok (i : Fin 8) (value : UInt8) (answers : s.silent = false) :
    (s.write (checked.get i) value).1 = .ok () := by
  unfold write
  dsimp only
  rw [if_neg (by rw [answers]; decide)]
  split
  · rfl
  · split
    · rfl
    · rw [dif_pos (checked_lt i)]

/-- The data block is delivered in full unless a read is to come back short. -/
lemma read_block_ok (speed : Speed) (buffer : Vector UInt8 blockSize)
    (answers : s.silent = false) (whole : s.shortReads = 0) :
    ∃ reading : Reading blockSize,
      (s.read interruptStatus speed buffer).1 = .ok reading ∧ reading.count = blockSize := by
  unfold read
  generalize logging : { s with log := .read interruptStatus speed blockSize :: s.log } = s₁
  have logged : Undisturbed s s₁ := logging ▸ ⟨fun _ => rfl, rfl, le_rfl⟩
  have loaded := logged.trans (loadSample_undisturbed s₁)
  have silent : ¬s₁.silent = true := by
    rw [logged.silent, answers]
    decide
  have whole : ¬0 < s₁.loadSample.shortReads :=
    (loaded.shortReads.trans whole.le).not_gt
  have block : interruptStatus = interruptStatus ∧ 1 < blockSize := by decide
  dsimp only
  rw [if_neg silent, if_neg (by decide), if_pos block, if_neg fun both => whole both.2]
  exact ⟨_, rfl, rfl⟩

/-! ### The sensor as a transport -/

lemma transport_read {n : Nat} (address : UInt8) (speed : Speed) (buffer : Vector UInt8 n)
    (s : Sensor) : Transport.read address speed buffer s =
      ((s.read address speed buffer).1.mapError (·.text), (s.read address speed buffer).2) := rfl

lemma transport_write (address value : UInt8) (s : Sensor) : Transport.write address value s =
    ((s.write address value).1.mapError (·.text), (s.write address value).2) := rfl

end Sensor

/-! ### Planned faults -/

/-- Only flips change what is read. -/
lemma Fault.bytes_spoil {n : Nat} {r : Reading n} {fault : Fault}
    (h : ∀ mask, fault ≠ .flip mask) : (fault.spoil r).bytes = r.bytes := by
  cases fault with
  | pass | fail | claim => rfl
  | flip mask => exact absurd rfl (h mask)

namespace FaultPlan

section

variable {σ : Type} {p : FaultPlan σ}

/-- No planned fault flips what is read. -/
def Honest (p : FaultPlan σ) : Prop := ∀ mask, Fault.flip mask ∉ p.plan

lemma inner_next (p : FaultPlan σ) : p.next.2.inner = p.inner := by
  unfold next
  split <;> rfl

lemma Honest.next (h : p.Honest) : p.next.2.Honest ∧ ∀ mask, p.next.1 ≠ .flip mask := by
  unfold FaultPlan.next
  split
  · exact ⟨h, nofun⟩
  · next fault rest planned =>
    rw [Honest, planned] at h
    exact ⟨fun mask member => h mask (List.mem_cons_of_mem _ member),
      fun mask flips => h mask (flips ▸ List.mem_cons_self)⟩

variable [Transport σ]

lemma read_def {n : Nat} (address : UInt8) (speed : Speed) (buffer : Vector UInt8 n)
    (p : FaultPlan σ) :
    Transport.read address speed buffer p =
      match p.next with
      | (.fail, q) => (.error failureText, q)
      | (fault, q) =>
        ((Transport.read address speed buffer q.inner).1.map fault.spoil,
          { q with inner := (Transport.read address speed buffer q.inner).2 }) := rfl

lemma write_def (address value : UInt8) (p : FaultPlan σ) :
    Transport.write address value p =
      match p.next with
      | (.fail, q) => (.error failureText, q)
      | (_, q) =>
        ((Transport.write address value q.inner).1,
          { q with inner := (Transport.write address value q.inner).2 }) := rfl

omit [Transport σ] in
lemma next_of_unplanned (unplanned : p.plan = []) : p.next = (.pass, p) := by
  rw [next, unplanned]

/-- Without planned faults a read is the read of the inner transport. -/
lemma read_of_unplanned {n : Nat} (address : UInt8) (speed : Speed) (buffer : Vector UInt8 n)
    (unplanned : p.plan = []) :
    Transport.read address speed buffer p =
      ((Transport.read address speed buffer p.inner).1,
        { p with inner := (Transport.read address speed buffer p.inner).2 }) := by
  rw [read_def, next_of_unplanned unplanned]
  dsimp only
  cases (Transport.read address speed buffer p.inner).1 with
  | error text => rfl
  | ok reading => rfl

lemma write_of_unplanned (address value : UInt8) (unplanned : p.plan = []) :
    Transport.write address value p =
      ((Transport.write address value p.inner).1,
        { p with inner := (Transport.write address value p.inner).2 }) := by
  rw [write_def, next_of_unplanned unplanned]

/-- A read fails, or is the read of the inner transport spoilt by the next fault. -/
lemma read_cases {n : Nat} (address : UInt8) (speed : Speed) (buffer : Vector UInt8 n)
    (p : FaultPlan σ) :
    Transport.read address speed buffer p = (.error failureText, p.next.2) ∨
      Transport.read address speed buffer p =
        ((Transport.read address speed buffer p.inner).1.map p.next.1.spoil,
          { p.next.2 with inner := (Transport.read address speed buffer p.inner).2 }) := by
  rw [read_def, ← inner_next p]
  obtain ⟨fault, q⟩ := p.next
  cases fault with
  | fail => exact .inl rfl
  | pass | claim | flip => exact .inr rfl

/-- A write fails without reaching the inner transport, or is the write of the inner transport. -/
lemma write_cases (address value : UInt8) (p : FaultPlan σ) :
    Transport.write address value p = (.error failureText, p.next.2) ∨
      Transport.write address value p =
        ((Transport.write address value p.inner).1,
          { p.next.2 with inner := (Transport.write address value p.inner).2 }) := by
  rw [write_def, ← inner_next p]
  obtain ⟨fault, q⟩ := p.next
  cases fault with
  | fail => exact .inl rfl
  | pass | claim | flip => exact .inr rfl

lemma honest_invariant : BusInvariant (Honest (σ := σ)) where
  read address speed buffer p h := by
    rcases read_cases address speed buffer p with failed | reached
    · exact failed ▸ h.next.1
    · exact reached ▸ h.next.1
  write address value p h := by
    rcases write_cases address value p with failed | reached
    · exact failed ▸ h.next.1
    · exact reached ▸ h.next.1

end

/-! ### A sensor behind planned faults -/

variable {p : FaultPlan Sensor}

lemma read_undisturbed {n : Nat} (address : UInt8) (speed : Speed) (buffer : Vector UInt8 n)
    (p : FaultPlan Sensor) :
    Sensor.Undisturbed p.inner (Transport.read address speed buffer p).2.inner := by
  rcases read_cases address speed buffer p with failed | reached
  · rw [failed, inner_next]
    exact ⟨fun _ => rfl, rfl, le_rfl⟩
  · rw [reached]
    exact Sensor.read_undisturbed address speed buffer p.inner

/-- A checked register that is read without a failure has the content read. -/
lemma Honest.register?_of_read (h : p.Honest) {i : Fin 8} {speed : Speed} {buffer : Vector UInt8 1}
    {reading : Reading 1}
    (read : (Transport.read (checked.get i) speed buffer p).1 = .ok reading) :
    p.inner.register? (checked.get i) = some (reading.bytes.get 0) := by
  rcases read_cases (checked.get i) speed buffer p with failed | reached
  · rw [failed] at read
    cases read
  · rw [reached, Sensor.transport_read] at read
    cases inner : (p.inner.read (checked.get i) speed buffer).1 with
    | error refusal =>
      rw [inner] at read
      cases read
    | ok reading' =>
      rw [inner] at read
      cases read
      rw [Sensor.register?_of_read inner]
      rw [Fault.bytes_spoil h.next.2]

/-- A write that fails does not reach the sensor, or is refused there. -/
lemma write_of_refused {address value : UInt8} {text : String}
    (failed : (Transport.write address value p).1 = .error text) :
    (Transport.write address value p).2.inner = p.inner ∨
      ∃ refusal, (p.inner.write address value).1 = .error refusal ∧
        (Transport.write address value p).2.inner = (p.inner.write address value).2 := by
  rcases write_cases address value p with stopped | reached
  · left
    rw [stopped, inner_next]
  · rw [reached, Sensor.transport_write] at failed ⊢
    cases inner : (p.inner.write address value).1 with
    | error refusal => exact .inr ⟨refusal, rfl, rfl⟩
    | ok =>
      rw [inner] at failed
      cases failed

/-- A write that fails changes no checked register. -/
lemma write_of_error {address value : UInt8} {text : String}
    (failed : (Transport.write address value p).1 = .error text) :
    Sensor.Undisturbed p.inner (Transport.write address value p).2.inner := by
  rcases write_of_refused failed with stopped | ⟨refusal, refused, reached⟩
  · rw [stopped]
    exact ⟨fun _ => rfl, rfl, le_rfl⟩
  · rw [reached]
    exact Sensor.write_of_error refused

/-- A write that fails changes no register at all. -/
lemma registers_of_refused {address value : UInt8} {text : String}
    (failed : (Transport.write address value p).1 = .error text) :
    (Transport.write address value p).2.inner.registers = p.inner.registers := by
  rcases write_of_refused failed with stopped | ⟨refusal, refused, reached⟩
  · rw [stopped]
  · rw [reached, Sensor.write_of_refused refused]

/-- A setting that succeeds changes only the register that it addresses. -/
lemma write_of_ok {address value : UInt8} (setting : IsSetting address value)
    (succeeds : (Transport.write address value p).1 = .ok ()) (i : Fin 8) :
    (Transport.write address value p).2.inner.register? (checked.get i) =
      if checked.get i = address then some value else p.inner.register? (checked.get i) := by
  rcases write_cases address value p with stopped | reached
  · rw [stopped] at succeeds
    cases succeeds
  · rw [reached, Sensor.transport_write] at succeeds ⊢
    cases inner : (p.inner.write address value).1 with
    | error refusal =>
      rw [inner] at succeeds
      cases succeeds
    | ok => exact Sensor.write_of_ok setting inner i

/-- No transfer makes a sensor silent, or makes it answer again. -/
lemma silent_invariant (silent : Bool) :
    BusInvariant fun p : FaultPlan Sensor => p.inner.silent = silent where
  read address speed buffer p h := (read_undisturbed address speed buffer p).silent.trans h
  write address value p h := by
    rcases write_cases address value p with stopped | reached
    · rw [stopped, inner_next]
      exact h
    · rw [reached]
      exact (Sensor.write_answers address value p.inner).1.trans h

/-! ### A sensor that answers -/

/-- No transfer fails, though reads of the data block may come back short. -/
structure Answering (p : FaultPlan Sensor) : Prop where
  plan : p.plan = []
  answers : p.inner.silent = false

namespace Answering

lemma honest (h : p.Answering) : p.Honest := by
  intro mask
  rw [h.plan]
  exact List.not_mem_nil

lemma read_eq {n : Nat} (h : p.Answering) (address : UInt8) (speed : Speed)
    (buffer : Vector UInt8 n) : Transport.read address speed buffer p =
      ((Transport.read address speed buffer p.inner).1,
        { p with inner := (Transport.read address speed buffer p.inner).2 }) :=
  read_of_unplanned address speed buffer h.plan

lemma write_eq (h : p.Answering) (address value : UInt8) :
    Transport.write address value p =
      ((Transport.write address value p.inner).1,
        { p with inner := (Transport.write address value p.inner).2 }) :=
  write_of_unplanned address value h.plan

/-- Checked registers can be read. -/
lemma read_checked (h : p.Answering) (i : Fin 8) (speed : Speed) (buffer : Vector UInt8 1) :
    ∃ reading : Reading 1,
      (Transport.read (checked.get i) speed buffer p).1 = .ok reading ∧ reading.count = 1 := by
  rw [h.read_eq, Sensor.transport_read, Sensor.read_checked_eq i speed buffer h.answers]
  exact ⟨_, rfl, rfl⟩

/-- Checked registers can be written. -/
lemma write_checked (h : p.Answering) (i : Fin 8) (value : UInt8) :
    (Transport.write (checked.get i) value p).1 = .ok () := by
  rw [h.write_eq, Sensor.transport_write, Sensor.write_checked_ok i value h.answers]
  rfl

end Answering

lemma answering_invariant : BusInvariant Answering where
  read address speed buffer p h := by
    refine ⟨?_, (silent_invariant false).read address speed buffer h.answers⟩
    rw [h.read_eq]
    exact h.plan
  write address value p h := by
    refine ⟨?_, (silent_invariant false).write address value h.answers⟩
    rw [h.write_eq]
    exact h.plan

/-! ### A reliable sensor -/

/-- No transfer fails or comes back short. -/
structure Reliable (p : FaultPlan Sensor) : Prop where
  plan : p.plan = []
  answers : p.inner.silent = false
  whole : p.inner.shortReads = 0

lemma Reliable.answering (h : p.Reliable) : p.Answering := ⟨h.plan, h.answers⟩

lemma reliable_invariant : BusInvariant Reliable where
  read address speed buffer p h := by
    have answering := answering_invariant.read address speed buffer h.answering
    have undisturbed := read_undisturbed address speed buffer p
    exact ⟨answering.plan, answering.answers,
      Nat.le_zero.mp (undisturbed.shortReads.trans h.whole.le)⟩
  write address value p h := by
    have answering := answering_invariant.write address value h.answering
    refine ⟨answering.plan, answering.answers, ?_⟩
    rw [h.answering.write_eq]
    exact (Sensor.write_answers address value p.inner).2.trans h.whole

/-- The data block is delivered in full. -/
lemma Reliable.read_block (h : p.Reliable) (speed : Speed) (buffer : Vector UInt8 blockSize) :
    ∃ reading : Reading blockSize,
      (Transport.read interruptStatus speed buffer p).1 = .ok reading ∧
        reading.count = blockSize := by
  rw [h.answering.read_eq, Sensor.transport_read]
  obtain ⟨reading, read, count⟩ := Sensor.read_block_ok speed buffer h.answers h.whole
  rw [read]
  exact ⟨reading, rfl, count⟩

end FaultPlan

end InertialSensor.Simulation
