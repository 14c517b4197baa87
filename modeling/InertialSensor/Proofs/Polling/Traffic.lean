import InertialSensor.Polling.Traffic
import InertialSensor.Proofs.Polling.Mode

/-!
# What is left when all requests have come back

However requests for a mode, their sections and the cycles of samplers come in between each other:
once all requests have come back, no two samplers live, and with an interval of zero any that still
lives ends with its next cycle. With a positive interval one lives and goes on running cycles,
unless the one in its place was spoilt: a cycle of it came before it was put there, and found an
interval of zero. Only the wait of a new sampler before its first cycle speaks against that, and
nothing rules it out (`unsampled_if_overtaken`).

`Orderly` is the invariant behind this. A sampler that lives is in its place, or in the hands of one
request. With a positive interval a sampler that is active, or spoilt, is in its place, or some
request is under way that will put one there or go back to zero (`Stage.covers`).
-/

namespace InertialSensor

/-! ### Stages -/

namespace Stage

/-- The sampler that the request has in its hands. -/
def holds : Stage → Option Nat
  | join _ taken => taken
  | store spawned => some spawned
  | _ => none

/-- The request will put a new sampler in the place, or set the interval to zero, or has failed. -/
def covers : Stage → Bool
  | inspect wasManual => wasManual
  | take manual => !manual
  | join .. | clean .. | forget | spawn | store _ | demand | failed => true
  | retune _ | returned => false

end Stage

/-! ### Samplers -/

namespace Thread

variable {t : Thread} {us : UInt64}

/-- It goes on running cycles, or is spoilt. -/
def Serves (t : Thread) : Prop := t.IsActive ∨ 0 ∈ t.early

lemma foundZero_find : (t.find us).FoundZero ↔ us = 0 ∨ t.FoundZero := by
  unfold find FoundZero
  split
  · rw [List.mem_cons, or_left_comm, eq_comm]
  · rw [List.mem_cons, or_assoc, eq_comm]

lemma stored_find : (t.find us).stored = t.stored := by
  unfold find
  split <;> rfl

lemma ended_find : (t.find us).ended = t.ended := by
  unfold find
  split <;> rfl

lemma early_find_of_fresh (fresh : t.stored = false) : (t.find us).early = us :: t.early := by
  rw [find, fresh, if_neg Bool.false_ne_true]

lemma early_subset_find : t.early ⊆ (t.find us).early := by
  unfold find
  split
  · exact List.Subset.refl _
  · exact List.subset_cons_self ..

/-- It serves on, whatever interval it finds, unless that is zero and it was in its place. -/
lemma Serves.find (serves : t.Serves) : (t.find us).Serves ∨ t.stored = true ∧ us = 0 := by
  by_cases zero : us = 0
  · cases place : t.stored with
    | true => exact .inr ⟨rfl, zero⟩
    | false => exact .inl (.inr (by rw [early_find_of_fresh place, zero]; exact List.mem_cons_self))
  · refine .inl (serves.imp (fun active => ⟨ended_find.trans active.1, fun found => ?_⟩)
      fun spoilt => early_subset_find spoilt)
    exact (foundZero_find.mp found).elim zero active.2

lemma Serves.finish (serves : t.Serves) : t.finish.Serves := by
  rcases serves with active | spoilt
  · rw [Thread.finish, if_neg active.2]
    exact .inl active
  · rw [Thread.finish]
    split <;> exact .inr spoilt

end Thread

namespace Traffic

variable {σ : Type} {t : Traffic σ} {n : Nat}

/-- A sampler goes on running cycles, or is spoilt. -/
def Serves (n : Nat) (t : Traffic σ) : Prop := ∃ thread ∈ t.threads[n]?, thread.Serves

/-- Whether a sampler that was created has been put in its place. -/
def IsStored (b : Bool) (n : Nat) (t : Traffic σ) : Prop :=
  ∃ thread ∈ t.threads[n]?, thread.stored = b

lemma IsStored.ne {m : Nat} (stored : t.IsStored true n) (fresh : t.IsStored false m) : n ≠ m := by
  rintro rfl
  obtain ⟨thread, here, stored⟩ := stored
  obtain ⟨_, here', fresh⟩ := fresh
  cases here.symm.trans here'
  exact Bool.false_ne_true (fresh.symm.trans stored)

lemma IsStored.lt_length {b : Bool} (h : t.IsStored b n) : n < t.threads.length := by
  obtain ⟨thread, here, -⟩ := h
  exact (List.getElem?_eq_some_iff.mp here).1

lemma exists_mem_modify {threads : List Thread} {m : Nat} {f : Thread → Thread}
    {p : Thread → Prop} :
    (∃ thread ∈ (threads.modify m f)[n]?, p thread) ↔
      ∃ thread ∈ threads[n]?, p (if m = n then f thread else thread) := by
  rw [List.getElem?_modify]
  cases threads[n]? with
  | none => exact ⟨nofun, nofun⟩
  | some thread => simp

/-- What a change of one sampler leaves alone holds of any sampler exactly if it did before. -/
lemma exists_mem_modify_of_iff {threads : List Thread} {m : Nat} {f : Thread → Thread}
    {p : Thread → Prop} (same : ∀ thread, p (f thread) ↔ p thread) :
    (∃ thread ∈ (threads.modify m f)[n]?, p thread) ↔ ∃ thread ∈ threads[n]?, p thread := by
  refine exists_mem_modify.trans (exists_congr fun thread => and_congr_right fun _ => ?_)
  split
  · exact same thread
  · rfl

lemma isStored_stop {b : Bool} {target : Option Nat} :
    (t.stop target).IsStored b n ↔ t.IsStored b n := by
  cases target with
  | none => rfl
  | some m => exact exists_mem_modify_of_iff fun _ => Iff.rfl

lemma isLive_stop {target : Option Nat} :
    (t.stop target).IsLive n ↔ target ≠ some n ∧ t.IsLive n := by
  cases target with
  | none => exact ⟨fun live => ⟨nofun, live⟩, And.right⟩
  | some m =>
    refine exists_mem_modify.trans ?_
    by_cases same : m = n <;> simp [same, IsLive]

lemma serves_stop {target : Option Nat} (other : target ≠ some n) (serves : t.Serves n) :
    (t.stop target).Serves n := by
  cases target with
  | none => exact serves
  | some m =>
    obtain ⟨thread, here, serves⟩ := serves
    refine exists_mem_modify.mpr ⟨thread, here, ?_⟩
    rw [if_neg fun same => other (congrArg some same)]
    exact serves

lemma isStored_put {b : Bool} {m : Nat} (other : m ≠ n) :
    (t.put m).IsStored b n ↔ t.IsStored b n := by
  refine exists_mem_modify.trans ?_
  simp [other, IsStored]

lemma isStored_put_self {b : Bool} (created : t.IsStored b n) : (t.put n).IsStored true n := by
  obtain ⟨thread, here, -⟩ := created
  exact exists_mem_modify.mpr ⟨thread, here, by simp⟩

lemma isLive_put {m : Nat} : (t.put m).IsLive n ↔ t.IsLive n :=
  exists_mem_modify_of_iff fun _ => Iff.rfl

lemma serves_put {m : Nat} : (t.put m).Serves n ↔ t.Serves n :=
  exists_mem_modify_of_iff fun _ => Iff.rfl

lemma getElem?_create_of_lt (old : n < t.threads.length) :
    t.create.threads[n]? = t.threads[n]? :=
  List.getElem?_append_left old

lemma exists_mem_create {p : Thread → Prop} :
    (∃ thread ∈ t.threads[n]?, p thread) → ∃ thread ∈ t.create.threads[n]?, p thread := by
  rintro ⟨thread, here, holds⟩
  have old : n < t.threads.length := (List.getElem?_eq_some_iff.mp here).1
  exact ⟨thread, (getElem?_create_of_lt old).trans here, holds⟩

lemma getElem?_create_length : t.create.threads[t.threads.length]? = some {} :=
  List.getElem?_concat_length

lemma isLive_create (live : t.create.IsLive n) : n = t.threads.length ∨ t.IsLive n := by
  obtain ⟨thread, here, live⟩ := live
  have inside : n < (t.threads ++ [({} : Thread)]).length := (List.getElem?_eq_some_iff.mp here).1
  rcases Nat.lt_or_eq_of_le (Nat.le_of_lt_succ (by simpa using inside)) with old | new
  · exact .inr ⟨thread, (getElem?_create_of_lt old).symm.trans here, live⟩
  · exact .inl new

/-! ### The invariant -/

/-- What a request knows of the sampler that it has in its hands. -/
def Fits (t : Traffic σ) : Stage → Prop
  | .join _ (some n) => t.place ≠ some n ∧ t.IsStored true n
  | .store n => t.IsStored false n ∧ t.Serves n
  | _ => True

/-- What a request knows goes on to hold, if the places and the samplers that it speaks of do. -/
lemma Fits.imp {t' : Traffic σ} {stage : Stage} (fits : t.Fits stage)
    (taken : ∀ n, t.IsStored true n → t.place ≠ some n → t'.place ≠ some n ∧ t'.IsStored true n)
    (spawned : ∀ n, stage = .store n → t.IsStored false n →
      t'.IsStored false n ∧ (t.Serves n → t'.Serves n)) :
    t'.Fits stage := by
  cases stage with
  | join _ target =>
    cases target with
    | none => trivial
    | some n => exact taken n fits.2 fits.1
  | store n =>
    obtain ⟨fresh, serves⟩ := spawned n rfl fits.1
    exact ⟨fresh, serves fits.2⟩
  | _ => trivial

/-- What holds however requests and samplers come in between each other. -/
structure Orderly (t : Traffic σ) : Prop where
  placed : ∀ n : Nat, t.place = some n → t.IsStored true n
  fits : ∀ stage ∈ t.callers, t.Fits stage
  apart : ∀ k k' n : Nat, .store n ∈ t.callers[k]? → .store n ∈ t.callers[k']? → k = k'
  live : ∀ n : Nat, t.IsLive n → t.place = some n ∨ ∃ stage ∈ t.callers, stage.holds = some n
  covered : t.driver.pollInterval ≠ 0 →
    (∃ n, t.place = some n ∧ t.Serves n) ∨ ∃ stage ∈ t.callers, stage.covers = true

namespace Orderly

variable {k : Nat} {before after : Stage}

lemma mem_set_of_ne {callers : List Stage} {stage : Stage} (old : before ∈ callers[k]?)
    (here : stage ∈ callers) (other : stage ≠ before) : stage ∈ callers.set k after := by
  obtain ⟨j, here⟩ := List.mem_iff_getElem?.mp here
  refine List.mem_iff_getElem?.mpr ⟨j, ?_⟩
  rw [List.getElem?_set_ne, here]
  rintro rfl
  exact other (Option.some.inj (here.symm.trans old))

/-- A request that is there after one of them went on is that one, or was there before. -/
lemma cases_of_set {callers : List Stage} {stage : Stage} {j : Nat} (old : before ∈ callers[k]?)
    (here : stage ∈ (callers.set k after)[j]?) :
    k = j ∧ stage = after ∨ k ≠ j ∧ stage ∈ callers[j]? := by
  obtain ⟨inside, -⟩ := List.getElem?_eq_some_iff.mp old
  rcases eq_or_ne k j with rfl | other
  · rw [List.getElem?_set_self inside] at here
    exact .inl ⟨rfl, (Option.some.inj here).symm⟩
  · rw [List.getElem?_set_ne other] at here
    exact .inr ⟨other, here⟩

/-- A request goes on: what is to be shown of it, and of the others. -/
lemma goes_on (h : Orderly t) (old : before ∈ t.callers[k]?) (t' : Traffic σ)
    (callers : t'.callers = t.callers)
    (placed : ∀ n, t'.place = some n → t'.IsStored true n)
    (own : t'.Fits after)
    (others : ∀ j stage, k ≠ j → stage ∈ t.callers[j]? → t.Fits stage → t'.Fits stage)
    (apart : ∀ n, after = .store n → .store n ∉ t.callers)
    (live : ∀ n, t'.IsLive n → t'.place = some n ∨ after.holds = some n ∨
      t.IsLive n ∧ t.place ≠ some n ∧ before.holds ≠ some n)
    (covered : t'.driver.pollInterval ≠ 0 →
      (∃ n, t'.place = some n ∧ t'.Serves n) ∨ after.covers = true ∨
        before.covers = false ∧ ∃ stage ∈ t.callers, stage.covers = true) :
    Orderly { t' with callers := t'.callers.set k after } := by
  rw [callers]
  obtain ⟨inside, -⟩ := List.getElem?_eq_some_iff.mp old
  have there : after ∈ t.callers.set k after := List.mem_set inside after
  refine ⟨placed, fun stage here => ?_, fun j j' n here here' => ?_, fun n lives => ?_,
    fun positive => ?_⟩
  · obtain ⟨j, here⟩ := List.mem_iff_getElem?.mp here
    rcases cases_of_set old here with ⟨-, rfl⟩ | ⟨other, here⟩
    · exact own
    · exact others j stage other here (h.fits stage (List.mem_of_getElem? here))
  · rcases cases_of_set old here with ⟨rfl, same⟩ | ⟨-, here⟩
    · rcases cases_of_set old here' with ⟨rfl, -⟩ | ⟨-, here'⟩
      · rfl
      · exact absurd (List.mem_of_getElem? here') (apart n same.symm)
    · rcases cases_of_set old here' with ⟨rfl, same⟩ | ⟨-, here'⟩
      · exact absurd (List.mem_of_getElem? here) (apart n same.symm)
      · exact h.apart j j' n here here'
  · rcases live n lives with placed | held | ⟨lived, away, other⟩
    · exact .inl placed
    · exact .inr ⟨after, there, held⟩
    · obtain ⟨stage, here, holds⟩ := (h.live n lived).resolve_left away
      refine .inr ⟨stage, mem_set_of_ne old here ?_, holds⟩
      rintro rfl
      exact other holds
  · rcases covered positive with serves | covers | ⟨bare, stage, here, covers⟩
    · exact .inl serves
    · exact .inr ⟨after, there, covers⟩
    · refine .inr ⟨stage, mem_set_of_ne old here ?_, covers⟩
      rintro rfl
      exact Bool.false_ne_true (bare.symm.trans covers)

/-- A request goes on, with no sampler in its hands before and after. -/
lemma advance (h : Orderly t) (old : before ∈ t.callers[k]?) (empty : before.holds = none)
    (empty' : after.holds = none) (driver : Driver σ)
    (covers : driver.pollInterval ≠ 0 →
      after.covers = true ∨ t.driver.pollInterval ≠ 0 ∧ before.covers = false) :
    Orderly { t with driver := driver, callers := t.callers.set k after } := by
  refine h.goes_on old { t with driver := driver } rfl h.placed ?_ (fun _ _ _ _ => id) ?_ ?_
    fun positive => ?_
  · cases after with
    | join manual taken =>
      cases empty'
      trivial
    | store => cases empty'
    | _ => trivial
  · rintro n rfl
    cases empty'
  · intro n lives
    by_cases placed : t.place = some n
    · exact .inl placed
    · exact .inr (.inr ⟨lives, placed, by rw [empty]; exact nofun⟩)
  · rcases covers positive with covers | ⟨positive, bare⟩
    · exact .inr (.inl covers)
    · exact (h.covered positive).imp_right fun other => .inr ⟨bare, other⟩

/-- The sampler is taken out of its place. -/
lemma take {manual : Bool} (h : Orderly t) (old : .take manual ∈ t.callers[k]?) :
    Orderly
      { t with place := none, callers := t.callers.set k (.join manual t.place) } := by
  refine h.goes_on old { t with place := none } rfl nofun ?_ ?_ nofun ?_
    fun _ => .inr (.inl rfl)
  · cases placed : t.place with
    | none => trivial
    | some n => exact ⟨nofun, h.placed n placed⟩
  · intro j stage _ _ fits
    exact fits.imp (fun n stored _ => ⟨nofun, stored⟩) fun n _ fresh => ⟨fresh, id⟩
  · intro n lives
    by_cases placed : t.place = some n
    · exact .inr (.inl placed)
    · exact .inr (.inr ⟨lives, placed, nofun⟩)

/-- The sampler that was taken has ended. -/
lemma join {manual : Bool} {taken : Option Nat} (h : Orderly t)
    (old : .join manual taken ∈ t.callers[k]?) :
    Orderly { t.stop taken with
      callers := (t.stop taken).callers.set k (.clean manual taken) } := by
  have place : (t.stop taken).place = t.place := by cases taken <;> rfl
  have callers : (t.stop taken).callers = t.callers := by cases taken <;> rfl
  have stored : ∀ n, taken = some n → t.IsStored true n := by
    rintro n rfl
    exact (h.fits _ (List.mem_of_getElem? old)).2
  refine h.goes_on old _ callers (fun n placed => ?_) trivial ?_ nofun ?_ fun _ => .inr (.inl rfl)
  · exact isStored_stop.mpr (h.placed n (place.symm.trans placed))
  · intro j stage _ _ fits
    refine fits.imp (fun n stored away => ?_) fun n _ fresh => ?_
    · exact ⟨fun placed => away (place.symm.trans placed), isStored_stop.mpr stored⟩
    · exact ⟨isStored_stop.mpr fresh, serves_stop fun same => (stored n same).ne fresh rfl⟩
  · intro n lives
    obtain ⟨other, lives⟩ := isLive_stop.mp lives
    by_cases placed : t.place = some n
    · exact .inl (place.trans placed)
    · exact .inr (.inr ⟨lives, placed, other⟩)

/-- A sampler is created. -/
lemma spawn (h : Orderly t) (old : .spawn ∈ t.callers[k]?) :
    Orderly { t.create with
      callers := t.create.callers.set k (.store t.threads.length) } := by
  have kept : ∀ {b m}, t.IsStored b m → t.create.IsStored b m := exists_mem_create
  refine h.goes_on old t.create rfl (fun n placed => kept (h.placed n placed)) ?_ ?_ ?_ ?_
    fun _ => .inr (.inl rfl)
  · exact ⟨⟨{}, getElem?_create_length, rfl⟩, {}, getElem?_create_length, .inl ⟨rfl, by decide⟩⟩
  · intro j stage _ _ fits
    exact fits.imp (fun n stored away => ⟨away, kept stored⟩) fun n _ fresh =>
      ⟨kept fresh, exists_mem_create⟩
  · rintro n same here
    cases same
    exact absurd (h.fits _ here).1.lt_length (Nat.lt_irrefl _)
  · intro n lives
    rcases isLive_create lives with rfl | lives
    · exact .inr (.inl rfl)
    · by_cases placed : t.place = some n
      · exact .inl placed
      · exact .inr (.inr ⟨lives, placed, nofun⟩)

/-- A new sampler is put in the place; the one that was there has ended. -/
lemma store {n : Nat} (h : Orderly t) (old : .store n ∈ t.callers[k]?) :
    Orderly { (t.stop t.place).put n with
      callers := ((t.stop t.place).put n).callers.set k .returned } := by
  have callers : ((t.stop t.place).put n).callers = t.callers := by
    cases placed : t.place <;> rfl
  obtain ⟨fresh, serves⟩ := h.fits _ (List.mem_of_getElem? old)
  refine h.goes_on old _ callers ?_ trivial ?_ nofun ?_ fun _ => .inl ⟨n, rfl, ?_⟩
  · rintro m placed
    cases placed
    exact isStored_put_self (isStored_stop.mpr fresh)
  · intro j stage other here fits
    refine fits.imp (fun m stored _ => ?_) fun m same fresh' => ?_
    · have ne : m ≠ n := stored.ne fresh
      exact ⟨fun placed => ne (Option.some.inj placed).symm,
        (isStored_put ne.symm).mpr (isStored_stop.mpr stored)⟩
    · -- no other request has the same sampler in its hands
      subst same
      have ne : n ≠ m := fun same => other (h.apart k j n old (same ▸ here))
      refine ⟨(isStored_put ne).mpr (isStored_stop.mpr fresh'), fun serves => ?_⟩
      refine serves_put.mpr (serves_stop (fun placed => ?_) serves)
      exact (h.placed m placed).ne fresh' rfl
  · intro m lives
    obtain ⟨away, lives⟩ := isLive_stop.mp (isLive_put.mp lives)
    by_cases same : n = m
    · exact .inl (congrArg some same)
    · exact .inr (.inr ⟨lives, away, fun held => same (Option.some.inj held)⟩)
  · refine serves_put.mpr (serves_stop (fun placed => ?_) serves)
    exact (h.placed n placed).ne fresh rfl

/-- A sampler acts on itself: it serves on, unless it was in its place at an interval of zero. -/
lemma of_modify (h : Orderly t) {m : Nat} {f : Thread → Thread} (driver : Driver σ)
    (interval : driver.pollInterval = t.driver.pollInterval)
    (stored : ∀ thread, (f thread).stored = thread.stored)
    (ended : ∀ thread, (f thread).ended = false → thread.ended = false)
    (serves : ∀ thread, thread.Serves →
      (f thread).Serves ∨ thread.stored = true ∧ t.driver.pollInterval = 0) :
    Orderly { t with driver := driver, threads := t.threads.modify m f } := by
  let t' : Traffic σ := { t with driver := driver, threads := t.threads.modify m f }
  have kept : ∀ {b n}, t.IsStored b n → t'.IsStored b n :=
    (exists_mem_modify_of_iff fun thread => by rw [stored thread]).mpr
  have servesOn : ∀ n, t.Serves n → t.IsStored false n ∨ t.driver.pollInterval ≠ 0 →
      t'.Serves n := by
    rintro n ⟨thread, here, still⟩ exempt
    refine exists_mem_modify.mpr ⟨thread, here, ?_⟩
    split
    · refine (serves thread still).resolve_right fun ⟨placed, zero⟩ => ?_
      rcases exempt with fresh | positive
      · exact IsStored.ne ⟨thread, here, placed⟩ fresh rfl
      · exact positive zero
    · exact still
  refine ⟨fun n placed => kept (h.placed n placed), fun stage here => ?_, h.apart,
    fun n lives => ?_, fun positive => ?_⟩
  · exact (h.fits stage here).imp (fun n stored away => ⟨away, kept stored⟩) fun n _ fresh =>
      ⟨kept fresh, fun serves => servesOn n serves (.inl fresh)⟩
  · obtain ⟨thread, here, alive⟩ := exists_mem_modify.mp lives
    refine h.live n ⟨thread, here, ?_⟩
    split at alive
    · exact ended thread alive
    · exact alive
  · have positive : t.driver.pollInterval ≠ 0 := interval ▸ positive
    refine (h.covered positive).imp_left fun ⟨n, placed, still⟩ => ⟨n, placed, ?_⟩
    exact servesOn n still (.inr positive)

variable [Transport σ]

lemma enter (h : Orderly t) (old : before ∈ t.callers[k]?) :
    Orderly { (t.enter before).2 with
      callers := (t.enter before).2.callers.set k (t.enter before).1 } := by
  cases before with
  | retune us =>
    rw [Traffic.enter]
    split
    · next driver _ =>
      refine h.advance old rfl rfl driver fun _ => ?_
      by_cases zero : t.driver.pollInterval = 0
      · exact .inl (decide_eq_true zero)
      · exact .inr ⟨zero, rfl⟩
    · next driver _ => exact h.advance old rfl rfl driver fun _ => .inl rfl
  | inspect wasManual =>
    rw [Traffic.enter]
    split
    · exact h.advance old rfl rfl t.driver fun _ => .inl rfl
    · next runs =>
      -- the mode was not manual before either, so that another request or a sampler covers it
      refine h.advance old rfl rfl t.driver fun positive => .inr ⟨positive, ?_⟩
      exact (Bool.or_eq_false_iff.mp (Bool.eq_false_iff.mpr runs)).1
  | take => exact h.take old
  | join => exact h.join old
  | clean manual taken =>
    have forgotten : ∃ driver, (if taken.isSome then t.forgetHistory else t) =
        { t with driver := driver } := by
      cases taken with
      | none => exact ⟨_, rfl⟩
      | some => exact ⟨_, rfl⟩
    obtain ⟨driver, forgotten⟩ := forgotten
    rw [Traffic.enter, forgotten]
    cases manual with
    | true => exact h.advance old rfl rfl driver fun _ => .inl rfl
    | false => exact h.advance old rfl rfl driver fun _ => .inl rfl
  | forget => exact h.advance old rfl rfl _ fun _ => .inl rfl
  | spawn => exact h.spawn old
  | store => exact h.store old
  | demand =>
    have zero : (Driver.setPollInterval 0 t.driver).2.pollInterval = 0 := rfl
    exact h.advance old rfl rfl _ fun positive => absurd zero positive
  | returned => exact h.advance old rfl rfl t.driver fun positive => .inr ⟨positive, rfl⟩
  | failed => exact h.advance old rfl rfl t.driver fun _ => .inl rfl

omit [Transport σ] in
lemma finish (h : Orderly t) (m : Nat) :
    Orderly { t with threads := t.threads.modify m (·.finish) } := by
  refine h.of_modify t.driver rfl (fun thread => ?_) (fun thread alive => ?_)
    fun _ serves => .inl serves.finish
  · unfold Thread.finish
    split <;> rfl
  · unfold Thread.finish at alive
    split at alive
    · cases alive
    · exact alive

lemma pollInterval_tick (d : Driver σ) :
    (Instrument.tick { driver := d }).driver.pollInterval = d.pollInterval :=
  congrArg (fun modes => modes.1.pollInterval) (Instrument.modes_tick { driver := d })

lemma cycle (h : Orderly t) (m : Nat) : Orderly (t.cycle m) := by
  rw [Traffic.cycle]
  split
  · exact h
  · split
    · refine h.of_modify _ (pollInterval_tick t.driver) (fun _ => Thread.stored_find)
        (fun _ alive => Thread.ended_find.symm.trans alive) fun _ serves => ?_
      rw [← pollInterval_tick t.driver]
      exact serves.find
    · exact h

lemma move (h : Orderly t) (m : Move) : Orderly (t.move m) := by
  cases m with
  | call k =>
    rw [Traffic.move]
    split
    · exact h
    · next old => exact h.enter old
  | cycle n => exact h.cycle n
  | finish n => exact h.finish n

lemma run (h : Orderly t) (moves : List Move) : Orderly (t.run moves) := by
  induction moves generalizing t with
  | nil => exact h
  | cons m moves ih => exact ih (h.move m)

omit [Transport σ] in
/-- Requests may come whenever the sampler runs exactly if the mode is not the manual one. -/
lemma of {i : Instrument σ} (inStep : i.InStep) (requests : List Polling) :
    Orderly (Traffic.of i requests) := by
  have early : ∀ stage ∈ (Traffic.of i requests).callers, stage.holds = none := by
    intro stage here
    obtain ⟨p, -, rfl⟩ := List.mem_map.mp here
    unfold Polling.stage
    split <;> rfl
  refine ⟨fun n placed => ?_, fun stage here => ?_, fun k k' n here _ => ?_, fun n lives => ?_,
    fun positive => ?_⟩
  · simp only [Traffic.of] at placed
    split at placed
    · next running =>
      cases placed
      exact ⟨{ stored := true }, by simp [Traffic.of, running], rfl⟩
    · cases placed
  · have empty := early stage here
    cases stage with
    | join manual taken =>
      cases empty
      trivial
    | store => cases empty
    | _ => trivial
  · cases early _ (List.mem_of_getElem? here)
  · obtain ⟨thread, here, -⟩ := lives
    simp only [Traffic.of] at here ⊢
    split at here
    · next running =>
      rw [if_pos running]
      have first : n = 0 := by simpa using (List.getElem?_eq_some_iff.mp here).1
      exact .inl (congrArg some first.symm)
    · cases here
  · have running : i.sampling = true :=
      inStep.mpr fun manual => positive (Instrument.polling_eq_manual_iff.mp manual)
    refine .inl ⟨0, if_pos running, { stored := true }, ?_, .inl ⟨rfl, by decide⟩⟩
    simp [Traffic.of, running]

end Orderly

/-! ### When all requests have come back -/

variable [Transport σ]

/-- A sampler has found an interval of zero after its next cycle, at the latest. -/
lemma foundZero_after_cycle (lives : t.IsLive n) (zero : t.driver.pollInterval = 0) :
    ∃ thread ∈ (t.cycle n).threads[n]?, thread.FoundZero := by
  obtain ⟨thread, here, alive⟩ := lives
  rw [Traffic.cycle, show t.threads[n]? = some thread from here]
  dsimp only
  split
  · refine exists_mem_modify.mpr ⟨thread, here, ?_⟩
    rw [if_pos rfl, Orderly.pollInterval_tick, Thread.foundZero_find]
    exact .inl zero
  · next idle =>
    refine ⟨thread, here, ?_⟩
    by_contra unaware
    exact idle ⟨alive, unaware⟩

lemma ends_at_zero (lives : t.IsLive n) (zero : t.driver.pollInterval = 0) :
    ¬ (t.run [.cycle n, .finish n]).IsLive n := by
  intro lives'
  obtain ⟨thread, here, found⟩ := foundZero_after_cycle lives zero
  obtain ⟨_, here', alive⟩ := exists_mem_modify.mp lives'
  cases here.symm.trans here'
  rw [if_pos rfl, Thread.finish, if_pos found] at alive
  cases alive

/-- Once all requests have come back, at most one sampler lives. If the interval is positive, one
does and has never found an interval of zero, exactly if the one in its place is not spoilt. If the
interval is zero, a sampler that still lives ends with its next cycle. -/
theorem sampling_settles {i : Instrument σ} (inStep : i.InStep) (requests : List Polling)
    (moves : List Move) (run : (of i requests).run moves = t)
    (returned : ∀ stage ∈ t.callers, stage = .returned) :
    (∀ n n', t.IsLive n → t.IsLive n' → n = n') ∧
      (t.driver.pollInterval ≠ 0 → ((∃ n, t.IsActive n) ↔ ∀ n ∈ t.place, ¬ t.IsSpoilt n)) ∧
      (t.driver.pollInterval = 0 →
        ∀ n, t.IsLive n → ¬ (t.run [.cycle n, .finish n]).IsLive n) := by
  have orderly : Orderly t := run ▸ (Orderly.of inStep requests).run moves
  have placed : ∀ n, t.IsLive n → t.place = some n := fun n lives =>
    (orderly.live n lives).resolve_right fun ⟨stage, here, holds⟩ => by
      rw [returned stage here] at holds
      cases holds
  refine ⟨fun n n' lives lives' => ?_, fun positive => ⟨?_, fun unspoilt => ?_⟩,
    fun zero n lives => ends_at_zero lives zero⟩
  · exact Option.some.inj ((placed n lives).symm.trans (placed n' lives'))
  · rintro ⟨n, thread, here, active⟩ m there ⟨_, here', spoilt⟩
    cases (placed n ⟨thread, here, active.1⟩).symm.trans there
    cases here.symm.trans here'
    exact active.2 (.inl spoilt)
  · rcases orderly.covered positive with ⟨n, there, thread, here, serves⟩ | ⟨stage, here, covers⟩
    · have sound : 0 ∉ thread.early := fun spoilt => unspoilt n there ⟨thread, here, spoilt⟩
      exact ⟨n, thread, here, serves.resolve_right sound⟩
    · rw [returned stage here] at covers
      cases covers

/-! ### Over a new sensor -/

open Instrument in
lemma inStep_opened : (openedOver []).InStep :=
  (Tracking.of_opened (ofDriver_eq_ok (by decide +kernel) :
    (ofDriver (driverOver [])).1 = .ok (openedOver []))).inStep_iff.mpr rfl

/-- The first request comes in between the other two, and so do the cycles of samplers. -/
def inTurn : List Move :=
  (List.replicate 4 [.call 1, .call 0, .cycle 0, .finish 0]).flatten ++
    (List.replicate 8 [.call 2, .cycle 0, .finish 0, .call 0, .cycle 1, .finish 1]).flatten

/-- They leave one sampler that goes on running cycles. -/
theorem settled_in_turn :
    let t := (of (Instrument.openedOver []) [.hertz 500, .manual, .hertz 250]).run inTurn
    (∀ n n', t.IsLive n → t.IsLive n' → n = n') ∧ ∃ n, t.IsActive n := by
  have settles := sampling_settles inStep_opened [.hertz 500, .manual, .hertz 250] inTurn
    rfl (by decide +kernel)
  exact ⟨settles.1, (settles.2.1 (by decide +kernel)).mpr (by decide +kernel)⟩

/-- The first request has created a sampler when the interval is set to zero, and puts it in its
place when another request has set the interval and put a sampler of its own there. -/
def overtaken : List Move :=
  List.replicate 7 (.call 0) ++ List.replicate 4 (.call 1) ++ [.cycle 0] ++
    List.replicate 8 (.call 2) ++ [.call 0, .finish 0]

/-- A sampler whose first cycle comes before it is put in its place can find an interval of zero,
and then take the place of one that goes on: all requests have come back, the interval is positive,
and no sampler lives. -/
theorem unsampled_if_overtaken :
    let t := (of (Instrument.openedOver []) [.hertz 500, .manual, .hertz 250]).run overtaken
    (∀ stage ∈ t.callers, stage = .returned) ∧ t.driver.pollInterval ≠ 0 ∧ ∀ n, ¬ t.IsLive n := by
  intro t
  have run : (∀ stage ∈ t.callers, stage = .returned) ∧ t.driver.pollInterval ≠ 0 ∧
      ∀ thread ∈ t.threads, thread.ended = true := by
    decide +kernel
  obtain ⟨returned, positive, ended⟩ := run
  refine ⟨returned, positive, ?_⟩
  rintro n ⟨thread, here, alive⟩
  cases alive.symm.trans (ended thread (List.mem_of_getElem? here))

end Traffic

end InertialSensor
