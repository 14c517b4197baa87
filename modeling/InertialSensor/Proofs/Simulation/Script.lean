import InertialSensor.Proofs.Simulation.Registers

/-!
# How the script is served

A read of the data block takes the next sample off the script, unless a block of zeros goes first or
the script is empty, and delivers the block of that sample (`read_block_eq`). No other read touches
the script (`script_read`).
-/

namespace InertialSensor.Simulation

open Register

/-! ### Storing and copying out -/

lemma getElem?_store {bytes : List UInt8} {start j : Nat} {r : RegisterFile}
    (inside : j < bytes.length) (fits : start + bytes.length ≤ Register.count) :
    (Sensor.store bytes start r)[start + j]? = some bytes[j] := by
  induction bytes generalizing start j r with
  | nil => cases inside
  | cons b bs ih =>
    rw [List.length_cons] at inside fits
    rw [Sensor.store]
    cases j with
    | zero =>
      -- the bytes stored later lie behind this one
      rw [Sensor.getElem?_store_of_apart (.inl (by omega)), Nat.add_zero,
        Vector.getElem?_setIfInBounds_self, if_pos (by omega)]
      rfl
    | succ j =>
      have next : start + (j + 1) = start + 1 + j := by omega
      rw [next, ih (by omega) (by omega), List.getElem_cons_succ]

/-- What was stored is copied out again. -/
lemma copyOut_store {n : Nat} (bytes : Vector UInt8 n) {start : Nat} (r : RegisterFile)
    (fits : start + n ≤ Register.count) (buffer : Vector UInt8 n) :
    Sensor.copyOut (Sensor.store bytes.toList start r) start buffer = bytes := by
  refine Vector.ext fun i inside => ?_
  have listed : i < bytes.toList.length := by rwa [Vector.length_toList]
  have stored : (Sensor.store bytes.toList start r)[start + i]? = some bytes.toList[i] :=
    getElem?_store listed (by rwa [Vector.length_toList])
  rw [Sensor.copyOut, Vector.getElem_ofFn, stored, Option.getD_some, Vector.getElem_toList]

namespace Sensor

variable {s : Sensor}

/-! ### The next sample -/

/-- What the next read of the data block takes off the script. -/
def due (s : Sensor) : List Sample := if 0 < s.zeroSamples then [] else s.script.take 1

lemma due_of_zeros (h : 0 < s.zeroSamples) : s.due = [] := if_pos h

lemma length_due_le (s : Sensor) : s.due.length ≤ 1 := by
  unfold due
  split
  · exact Nat.zero_le _
  · exact List.length_take_le _ _

lemma script_nextSample (s : Sensor) : s.script = s.due ++ s.nextSample.2.script := by
  unfold due nextSample
  split
  · rfl
  · cases s.script with
    | nil => rfl
    | cons sample rest => rfl

/-- A sample taken off the script is the one that is served. -/
lemma nextSample_of_due {sample : Sample} (h : sample ∈ s.due) : s.nextSample.1 = sample := by
  unfold due at h
  unfold nextSample
  split at h
  · cases h
  · next genuine =>
    rw [if_neg genuine]
    cases scripted : s.script with
    | nil =>
      rw [scripted] at h
      cases h
    | cons first rest =>
      rw [scripted, List.take_succ_cons, List.take_zero] at h
      exact (List.mem_singleton.mp h).symm

/-- The log has no part in what is served. -/
lemma nextSample_logged (s : Sensor) (log : List Entry) :
    ({ s with log := log } : Sensor).nextSample =
      (s.nextSample.1, { s.nextSample.2 with log := log }) := by
  unfold nextSample
  dsimp only
  split
  · rfl
  · cases s.script with
    | nil => rfl
    | cons sample rest => rfl

/-! ### Reads -/

lemma script_loadSample (s : Sensor) : s.loadSample.script = s.nextSample.2.script := by
  rw [loadSample_eq]

/-- Reads of single registers, and reads while a block of zeros is due, leave the script alone. -/
lemma script_read {n : Nat} (address : UInt8) (speed : Speed) (buffer : Vector UInt8 n)
    (h : n ≤ 1 ∨ 0 < s.zeroSamples) : (s.read address speed buffer).2.script = s.script := by
  unfold read
  generalize logging : { s with log := .read address speed n :: s.log } = s₁
  have script : s₁.script = s.script := by rw [← logging]
  have zeros : s₁.zeroSamples = s.zeroSamples := by rw [← logging]
  dsimp only
  split
  · exact script
  · split
    · exact script
    · generalize addressed : (if address = interruptStatus ∧ 1 < n then s₁.loadSample else s₁) = s₂
      have loaded : s₂.script = s.script := by
        rw [← addressed]
        split
        · next block =>
          have due : s₁.due = [] := due_of_zeros (by omega)
          have taken := script_nextSample s₁
          rw [due, List.nil_append] at taken
          rw [script_loadSample, ← taken, script]
        · exact script
      split
      · exact loaded
      · exact loaded

lemma copyOut_loadSample (s : Sensor) (buffer : Vector UInt8 blockSize) :
    copyOut s.loadSample.registers interruptStatus.toNat buffer =
      s.nextSample.1.block dataReady := by
  rw [loadSample_eq]
  exact copyOut_store _ _ (by decide) buffer

/-- The data block that is read is that of the next sample; the count may be one short. -/
lemma read_block_eq (speed : Speed) (buffer : Vector UInt8 blockSize)
    (answers : s.silent = false) :
    (s.read interruptStatus speed buffer).1 = .ok ⟨s.nextSample.1.block dataReady,
        if 0 < s.shortReads then blockSize - 1 else blockSize⟩ ∧
      (s.read interruptStatus speed buffer).2.script = s.nextSample.2.script := by
  have block : interruptStatus = interruptStatus ∧ 1 < blockSize := by decide
  have available : min (Register.count - interruptStatus.toNat) blockSize = blockSize := by decide
  unfold read
  generalize logging : { s with log := .read interruptStatus speed blockSize :: s.log } = s₁
  have next : s₁.nextSample.1 = s.nextSample.1 ∧
      s₁.nextSample.2.script = s.nextSample.2.script := by
    rw [← logging, nextSample_logged]
    exact ⟨rfl, rfl⟩
  have shortReads : s₁.loadSample.shortReads = s.shortReads := by
    have loaded : s₁.loadSample.shortReads = s₁.nextSample.2.shortReads := by rw [loadSample_eq]
    rw [loaded, (nextSample_eq s₁).2.2, ← logging]
  dsimp only
  rw [if_neg (by rw [← logging, answers]; decide), if_neg (by decide), if_pos block, available,
    copyOut_loadSample, shortReads, next.1]
  by_cases short : 0 < s.shortReads
  · rw [if_pos ⟨block, short⟩, if_pos short]
    refine ⟨rfl, ?_⟩
    dsimp only
    rw [script_loadSample, next.2]
  · rw [if_neg fun both => short both.2, if_neg short]
    refine ⟨rfl, ?_⟩
    dsimp only
    rw [script_loadSample, next.2]

end Sensor

end InertialSensor.Simulation
