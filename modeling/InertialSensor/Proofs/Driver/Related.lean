import InertialSensor.Proofs.Driver.History

/-!
# Cycles from related states

Two states are run side by side. `Relates R Q x` says that from states related by `R` the routine
`x` comes to the same, and leaves states related by `Q`, which may speak of the result; a routine
`Respects` a relation if it leaves related what was related.

A relation is a `Coupling` if related states cannot be told apart by what a cycle looks at before it
accepts a sample, and what it does up to then keeps them related. Cycles then differ only by what
becomes of an accepted sample (`Coupling.measure`).
-/

namespace InertialSensor

/-- The ways in which a cycle counts. -/
inductive Stats.Counting : (Stats → Stats) → Prop where
  | cycle : Counting fun s => { s with cycles := s.cycles + 1 }
  | bad : Counting fun s => { s with badTransfers := s.badTransfers + 1 }
  | mismatch : Counting fun s => { s with badRegisters := s.badRegisters + 1 }
  | good : Counting fun s => { s with goodTransfers := s.goodTransfers + 1 }
  | duplicate : Counting fun s => { s with duplicates := s.duplicates + 1 }

namespace Routine

open Driver

variable {σ α β : Type} {R : Driver σ → Driver σ → Prop}
  {Q : Except Failure β → Driver σ → Driver σ → Prop}

/-- From related states a routine comes to the same, and leaves states related by what it came
to. -/
def Relates (R : Driver σ → Driver σ → Prop) (Q : Except Failure α → Driver σ → Driver σ → Prop)
    (x : Routine σ α) : Prop :=
  ∀ d e, R d e → (x d).1 = (x e).1 ∧ Q (x d).1 (x d).2 (x e).2

/-- From related states a routine comes to the same, and leaves them related. -/
def Respects (R : Driver σ → Driver σ → Prop) (x : Routine σ α) : Prop := Relates R (fun _ => R) x

/-- Routines that respect a relation may come first. -/
lemma Relates.bind {x : Routine σ α} {f : α → Routine σ β} (hx : Respects R x)
    (hf : ∀ a, Relates R Q (f a)) (failed : ∀ {d e cause}, R d e → Q (.error cause) d e) :
    Relates R Q (x >>= f) := by
  intro d e h
  obtain ⟨same, after⟩ := hx d e h
  rw [bind_apply, bind_apply]
  generalize x d = r at same after ⊢
  generalize x e = r' at same after ⊢
  obtain ⟨result, d'⟩ := r
  obtain ⟨result', e'⟩ := r'
  cases same
  cases result with
  | error cause => exact ⟨rfl, failed after⟩
  | ok a => exact hf a _ _ after

/-- A look at the state tells related states apart only by what the routine makes of it. -/
lemma Relates.look_bind {f : Driver σ → Routine σ β} (same : ∀ {d e}, R d e → f d = f e)
    (hf : ∀ d, Relates R Q (f d)) : Relates R Q (look >>= f) := by
  intro d e h
  rw [bind_apply, bind_apply]
  simp only [look_apply, ← same h]
  exact hf d d e h

namespace Respects

lemma pure (a : α) : Respects R (pure a : Routine σ α) := fun _ _ h => ⟨rfl, h⟩

lemma fail (e : Failure) : Respects R (fail e : Routine σ α) := fun _ _ h => ⟨rfl, h⟩

lemma bind {x : Routine σ α} {f : α → Routine σ β} (hx : Respects R x)
    (hf : ∀ a, Respects R (f a)) : Respects R (x >>= f) :=
  Relates.bind hx hf id

lemma look_bind {f : Driver σ → Routine σ β} (same : ∀ {d e}, R d e → f d = f e)
    (hf : ∀ d, Respects R (f d)) : Respects R (look >>= f) :=
  Relates.look_bind same hf

lemma attempt {x : Routine σ α} (hx : Respects R x) : Respects R (attempt x) := by
  intro d e h
  obtain ⟨same, after⟩ := hx d e h
  exact ⟨congrArg Except.ok same, after⟩

end Respects

end Routine

namespace Driver

open Routine

variable {σ : Type} [Transport σ]

/-- Related states are the same in what a cycle looks at before it accepts a sample, and what it does
up to then keeps them related. -/
structure Coupling (R : Driver σ → Driver σ → Prop) : Prop where
  now : ∀ {d e}, R d e → d.now = e.now
  verifies : ∀ {d e}, R d e → d.config.verifies = e.config.verifies
  inFactoryTest : ∀ {d e}, R d e → d.inFactoryTest = e.inFactoryTest
  watch : ∀ {d e}, R d e → d.watch = e.watch
  guard : ∀ {d e}, R d e → d.guard = e.guard
  read : ∀ {d e} {n : Nat} (address : UInt8) (speed : Speed) (buffer : Vector UInt8 n), R d e →
    (Transport.read address speed buffer d.bus).1 = (Transport.read address speed buffer e.bus).1 ∧
      R { d with bus := (Transport.read address speed buffer d.bus).2 }
        { e with bus := (Transport.read address speed buffer e.bus).2 }
  write : ∀ {d e} (address value : UInt8), R d e →
    (Transport.write address value d.bus).1 = (Transport.write address value e.bus).1 ∧
      R { d with bus := (Transport.write address value d.bus).2 }
        { e with bus := (Transport.write address value e.bus).2 }
  setWatch : ∀ {d e} (watch : Integrity.Watch), R d e →
    R { d with watch := watch } { e with watch := watch }
  setGuard : ∀ {d e} (guard : RepeatGuard), R d e →
    R { d with guard := guard } { e with guard := guard }
  note : ∀ {d e} (event : Event), R d e →
    R { d with log := d.log.push event } { e with log := e.log.push event }
  count : ∀ {d e} {f : Stats → Stats}, Stats.Counting f → R d e →
    R { d with stats := f d.stats } { e with stats := f e.stats }

namespace Coupling

variable {R : Driver σ → Driver σ → Prop} (coupling : Coupling R)

include coupling

lemma isSuspended {d e : Driver σ} (h : R d e) : d.isSuspended = e.isSuspended := by
  rw [Driver.isSuspended, Driver.isSuspended, coupling.inFactoryTest h, coupling.watch h,
    coupling.now h]

/-! ### Single changes -/

lemma note_respects (event : Event) : Respects R (Routine.note event) :=
  fun _ _ h => ⟨rfl, coupling.note event h⟩

lemma tally_respects {f : Stats → Stats} (counting : Stats.Counting f) : Respects R (tally f) :=
  fun _ _ h => ⟨rfl, coupling.count counting h⟩

lemma watch_respects (f : Integrity.Watch → Integrity.Watch) :
    Respects R (update fun d => { d with watch := f d.watch }) := by
  intro d e h
  simp only [update_apply, ← coupling.watch h]
  exact ⟨trivial, coupling.setWatch _ h⟩

/-! ### Register access -/

lemma readExactly_respects (n : Nat) (address : UInt8) (speed : Speed) :
    Respects R (readExactly n address speed) := by
  have into : Respects R (readInto n address speed) := by
    intro d e h
    obtain ⟨same, after⟩ := coupling.read address speed (Vector.replicate n 0) h
    rw [readInto_apply, readInto_apply, same]
    exact ⟨rfl, after⟩
  refine .bind into fun reading => ?_
  split
  · exact .pure _
  · exact .fail _

lemma readRegister_respects (address : UInt8) (speed : Speed) :
    Respects R (readRegister address speed) :=
  .bind (coupling.readExactly_respects 1 address speed) fun _ => .pure _

lemma writeRaw_respects (address value : UInt8) : Respects R (writeRaw address value) := by
  intro d e h
  obtain ⟨same, after⟩ := coupling.write address value h
  rw [writeRaw_apply, writeRaw_apply, same]
  exact ⟨rfl, after⟩

/-! ### Stages of a cycle -/

lemma restoreClock_respects : Respects R (restoreClock (σ := σ)) := by
  refine .look_bind (fun h => by rw [coupling.watch h]) fun d => ?_
  split
  · exact .bind (coupling.writeRaw_respects _ _) fun _ => coupling.watch_respects (·.takeWake.2)
  · exact .pure _

lemma countBad_respects : Respects R (countBad (σ := σ)) := coupling.tally_respects .bad

lemma fetchBlock_respects : Respects R (fetchBlock (σ := σ)) := by
  refine .bind (.attempt (coupling.readExactly_respects _ _ _)) fun result => ?_
  split
  · exact .pure _
  · exact .bind coupling.countBad_respects fun _ => .fail _

lemma recover_respects (address found : UInt8) (order : Integrity.Recovery) :
    Respects R (recover (σ := σ) address found order) := by
  cases order with
  | reset => exact .bind (coupling.note_respects _) fun _ => coupling.writeRaw_respects _ _
  | repair => exact .bind (coupling.note_respects _) fun _ => coupling.writeRaw_respects _ _

lemma verifyRegister_respects : Respects R (verifyRegister (σ := σ)) := by
  refine .look_bind (fun h => by rw [coupling.watch h]) fun d => ?_
  refine .bind (.attempt (coupling.readRegister_respects _ _)) fun result => ?_
  split
  · exact .bind (coupling.note_respects _) fun _ => coupling.countBad_respects
  · refine .look_bind (fun h => by rw [coupling.watch h, coupling.now h]) fun d' => ?_
    split
    refine .bind (coupling.watch_respects fun _ => _) fun _ => ?_
    split
    · exact .pure _
    · refine .bind (coupling.tally_respects .mismatch) fun _ => ?_
      refine .bind (.attempt (coupling.recover_respects _ _ _)) fun result => ?_
      split
      · exact .pure _
      · exact coupling.note_respects _

lemma examineRepeat_respects (block : Vector UInt8 blockSize) :
    Respects R (examineRepeat (σ := σ) block) := by
  intro d e h
  simp only [examineRepeat, ← coupling.guard h]
  exact ⟨trivial, coupling.setGuard _ h⟩

lemma settle_respects : Respects R (settle (σ := σ)) := by
  intro d e h
  simp only [settle, ← coupling.watch h]
  exact ⟨trivial, coupling.setWatch _ h⟩

/-! ### The whole cycle -/

section

variable {Q : Except Failure Cycle → Driver σ → Driver σ → Prop}
  (unsampled : ∀ {outcome d e}, isSampled outcome = false → R d e → Q outcome d e)
  (accepted : ∀ sample, Relates R Q fun d =>
    (.ok (.sampled (d.accept sample).1), (d.accept sample).2))

include unsampled accepted

lemma digest (block : Vector UInt8 blockSize) : Relates R Q (digest (σ := σ) block) := by
  have dropped {x : Routine σ Cycle} (hx : Respects R x) (never : ∀ d, isSampled (x d).1 = false) :
      Relates R Q x := fun d e h => ⟨(hx d e h).1, unsampled (never d) (hx d e h).2⟩
  refine .bind (coupling.examineRepeat_respects block) (fun isRepeat => ?_) (unsampled rfl)
  split
  · refine dropped (.bind (coupling.tally_respects .duplicate) fun _ =>
      .bind (coupling.note_respects _) fun _ => .pure _) fun _ => rfl
  · dsimp only
    split
    · refine dropped (.bind coupling.countBad_respects fun _ =>
        .bind (coupling.note_respects _) fun _ => .fail _) fun _ => rfl
    · refine .bind (coupling.tally_respects .good) (fun _ => ?_) (unsampled rfl)
      refine .bind coupling.settle_respects (fun withheld => ?_) (unsampled rfl)
      cases withheld with
      | true => exact dropped (.pure Cycle.settling) fun _ => rfl
      | false => exact accepted (Sample.ofBlock block)

/-- From related states a cycle comes to the same; the states after it are related as they are after
a sample is accepted, and otherwise as before. -/
lemma measure : Relates R Q (measure (σ := σ)) := by
  refine .look_bind (fun h => by rw [coupling.isSuspended h, coupling.verifies h]) fun d => ?_
  split
  · exact fun d e h => ⟨rfl, unsampled rfl h⟩
  · refine .bind coupling.restoreClock_respects (fun _ => ?_) (unsampled rfl)
    refine .bind (coupling.tally_respects .cycle) (fun _ => ?_) (unsampled rfl)
    refine .bind coupling.fetchBlock_respects (fun block => ?_) (unsampled rfl)
    split
    · exact .bind coupling.verifyRegister_respects
        (fun _ => coupling.digest unsampled accepted block) (unsampled rfl)
    · exact coupling.digest unsampled accepted block

end

end Coupling

end Driver

end InertialSensor
