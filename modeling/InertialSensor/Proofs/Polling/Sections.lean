import InertialSensor.Polling.Traffic
import InertialSensor.Proofs.Polling.Mode

/-!
# A request that runs alone

The sections of a request, one right after the other, do together what an instrument does at once
when its mode is set: three of them stop the sampler, six start one, and two set the interval and
see whether one is needed. `Mirrors` says what the two have in common meanwhile.
-/

namespace InertialSensor.Traffic

variable {σ : Type} {t : Traffic σ} {i : Instrument σ}

/-- A sampler is in the place exactly if that of the instrument runs, and then it runs as well. -/
structure Mirrors (t : Traffic σ) (i : Instrument σ) : Prop where
  driver : t.driver = i.driver
  running : t.isRunning = i.sampling
  empty : i.sampling = false → t.place = none

lemma Mirrors.of (i : Instrument σ) (requests : List Polling) : Mirrors (of i requests) i := by
  refine ⟨rfl, ?_, fun idle => by simp [Traffic.of, idle]⟩
  cases running : i.sampling <;> simp [isRunning, Traffic.of, running]

variable [Transport σ]

lemma run_append (moves moves' : List Move) :
    t.run (moves ++ moves') = (t.run moves).run moves' := List.foldl_append

/-- Three sections stop the sampler as one action would. -/
lemma Mirrors.stop {manual : Bool} (h : Mirrors t i)
    (alone : t.callers = [.take manual]) :
    ∃ threads, t.run (List.replicate 3 (.call 0)) =
      ⟨i.stopSampling.driver, none, threads, [if manual then .demand else .forget]⟩ := by
  obtain ⟨driver, place, threads, callers⟩ := t
  obtain ⟨rfl, running, empty⟩ := h
  cases alone
  cases runs : i.sampling with
  | false =>
    cases empty runs
    rw [Instrument.stopSampling, runs]
    exact ⟨_, rfl⟩
  | true =>
    cases place with
    | none =>
      rw [runs] at running
      cases running
    | some n =>
      rw [Instrument.stopSampling, if_pos runs]
      exact ⟨_, rfl⟩

/-- Six sections start a sampler as one action would. -/
lemma Mirrors.start (h : Mirrors t i) (alone : t.callers = [.take false]) :
    (t.run (List.replicate 6 (.call 0))).driver = i.startSampling.driver ∧
      (t.run (List.replicate 6 (.call 0))).isRunning = true := by
  obtain ⟨threads, stopped⟩ := h.stop alone
  rw [show (6 : Nat) = 3 + 3 from rfl, ← List.replicate_append_replicate, run_append, stopped]
  refine ⟨rfl, ?_⟩
  change (((threads ++ [({} : Thread)]).modify threads.length _)[threads.length]?).any _ = true
  rw [List.getElem?_modify, List.getElem?_concat_length]
  simp

/-- A request that has come back does nothing more. -/
lemma run_of_ended (ended : t.callers = [.returned] ∨ t.callers = [.failed]) (m : Nat) :
    t.run (List.replicate m (.call 0)) = t := by
  have still : t.move (.call 0) = t := by
    obtain ⟨driver, place, threads, callers⟩ := t
    rcases ended with rfl | rfl
    · rfl
    · rfl
  induction m with
  | zero => rfl
  | succ m ih =>
    rw [List.replicate_succ, run, List.foldl_cons, still]
    exact ih

/-- A request for a rate sets the interval, and starts a sampler if there is need. -/
lemma Mirrors.retune {us : Nat} (h : Mirrors t i)
    (alone : t.callers = [.retune us]) :
    let set := Driver.setPollInterval us.toUInt64 i.driver
    t.run (List.replicate 2 (.call 0)) = { t with
      driver := set.2
      callers := [match set.1 with
        | .ok () =>
          if i.driver.pollInterval = 0 ∨ ¬ i.sampling then .take false else .returned
        | .error _ => .failed] } := by
  obtain ⟨driver, place, threads, callers⟩ := t
  obtain ⟨rfl, running, -⟩ := h
  cases alone
  dsimp only
  rw [run, List.replicate_succ, List.foldl_cons, move]
  simp only [List.getElem?_cons_zero, enter]
  generalize Driver.setPollInterval us.toUInt64 i.driver = set
  obtain ⟨cause | ⟨⟩, d⟩ := set
  · rfl
  · let t' : Traffic σ := ⟨d, place, threads, [.inspect (decide (i.driver.pollInterval = 0))]⟩
    have running : t'.isRunning = i.sampling := running
    simp only [t'] at running
    simp [List.replicate_succ, move, enter, running]

/-- A request that runs alone sets the mode as one action would. -/
theorem run_alone (p : Polling) (i : Instrument σ) :
    let t := (of i [p]).run (List.replicate 8 (.call 0))
    t.driver = (i.setPolling p).2.driver ∧ t.isRunning = (i.setPolling p).2.sampling := by
  have mirrors := Mirrors.of i [p]
  have alone : (of i [p]).callers = [p.stage] := rfl
  generalize of i [p] = t at mirrors alone
  unfold Instrument.setPolling
  split
  · next reason refused =>
    rw [Polling.stage, refused] at alone
    dsimp only
    rw [run_of_ended (.inl alone)]
    exact ⟨mirrors.driver, mirrors.running⟩
  · next asked =>
    rw [Polling.stage, asked] at alone
    obtain ⟨threads, stopped⟩ := mirrors.stop alone
    have idle := congrArg (fun modes => modes.2.1) i.modes_stopSampling
    rw [show (8 : Nat) = 3 + (1 + 4) from rfl, ← List.replicate_append_replicate,
      ← List.replicate_append_replicate, run_append, stopped, run_append]
    dsimp only
    rw [run_of_ended (.inl rfl)]
    exact ⟨rfl, idle.symm⟩
  · next us some asked =>
    obtain ⟨us, rfl⟩ := Nat.exists_eq_succ_of_ne_zero some
    rw [Polling.stage, asked] at alone
    have retuned := mirrors.retune alone
    rw [show (8 : Nat) = 2 + 6 from rfl, ← List.replicate_append_replicate, run_append, retuned]
    dsimp only [Instrument.run]
    generalize Driver.setPollInterval (us + 1).toUInt64 i.driver = set
    obtain ⟨cause | ⟨⟩, d⟩ := set
    · dsimp only
      rw [run_of_ended (.inr rfl)]
      exact ⟨rfl, mirrors.running⟩
    · dsimp only
      split
      · let t' : Traffic σ := { t with driver := d, callers := [.take false] }
        have tuned : t'.Mirrors { i with driver := d } := ⟨rfl, mirrors.running, mirrors.empty⟩
        exact tuned.start rfl
      · rw [run_of_ended (.inl rfl)]
        exact ⟨rfl, mirrors.running⟩

end InertialSensor.Traffic
