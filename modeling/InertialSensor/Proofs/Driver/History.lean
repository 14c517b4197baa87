import InertialSensor.Proofs.Driver.Course

/-!
# Histories

A run of operations as the list of its steps, and the measurement cycle that runs within a step, if
there is one. Steps and cycles are told by the state in which they start; what becomes of them is
computed.

`Progress` says all that one step can do: it works through touches, or ends in a reset that took, or
runs one cycle. `history_keeps` carries what single steps keep through a whole run.
-/

namespace InertialSensor

/-! ### Cycles -/

/-- The outcome of a cycle whose transfer was good and whose data was withheld. -/
def isSettling : Except Failure Cycle → Bool
  | .ok .settling => true
  | _ => false

/-- The outcome of a cycle that made reports. -/
def isSampled : Except Failure Cycle → Bool
  | .ok (.sampled _) => true
  | _ => false

/-- A measurement cycle, told by the state in which it starts. -/
structure Passage (σ : Type) where
  before : Driver σ

namespace Passage

variable {σ : Type} [Transport σ]

/-- What the cycle came to. -/
def outcome (p : Passage σ) : Except Failure Cycle := (Driver.measure p.before).1

/-- The state after the cycle. -/
def after (p : Passage σ) : Driver σ := (Driver.measure p.before).2

/-- The transfer was good, and its data was withheld. -/
def settles (p : Passage σ) : Bool := isSettling p.outcome

/-- Reports were made. -/
def samples (p : Passage σ) : Bool := isSampled p.outcome

/-- The cycle went to the bus for a data block. -/
def fetches (p : Passage σ) : Bool := p.before.stats.cycles < p.after.stats.cycles

/-- The transfer was counted as good. -/
def isGood (p : Passage σ) : Bool := p.before.stats.goodTransfers < p.after.stats.goodTransfers

/-- A register was found wrong. -/
def findsMismatch (p : Passage σ) : Bool :=
  p.before.stats.badRegisters < p.after.stats.badRegisters

/-- A register was found wrong, and a reset of the chip was ordered. -/
def ordersReset (p : Passage σ) : Bool := p.findsMismatch && p.after.watch.wakePending

/-- A register was found wrong, and its repair was ordered. -/
def ordersRepair (p : Passage σ) : Bool := p.findsMismatch && !p.after.watch.wakePending

/-- The transfer was counted as good although the register due could not be read. -/
def isBlind (p : Passage σ) : Bool :=
  p.isGood && decide (p.before.stats.badTransfers < p.after.stats.badTransfers)

end Passage

namespace Driver

open Routine

variable {σ : Type}

/-! ### Steps -/

/-- An answer made of a result is given in the state in which the routine ends, and exactly if it
succeeds. -/
lemma answered {α : Type} (x : Routine σ α) (f : α → Answer) (d : Driver σ) :
    ((do pure (f (← x)) : Routine σ Answer) d).2 = (x d).2 ∧
      ((do pure (f (← x)) : Routine σ Answer) d).1.isOk = (x d).1.isOk := by
  rw [bind_apply]
  generalize x d = r
  obtain ⟨_ | _, _⟩ := r
  · exact ⟨rfl, rfl⟩
  · exact ⟨rfl, rfl⟩

/-- If none is given, then for the cause for which the routine fails. -/
lemma answered_error_iff {α : Type} (x : Routine σ α) (f : α → Answer) (d : Driver σ)
    (cause : Failure) :
    ((do pure (f (← x)) : Routine σ Answer) d).1 = .error cause ↔ (x d).1 = .error cause := by
  rw [bind_apply]
  generalize x d = r
  obtain ⟨_ | _, _⟩ := r
  · constructor
    · rintro ⟨⟩
      rfl
    · rintro ⟨⟩
      rfl
  · exact iff_of_false nofun nofun

/-- If an answer is given, the routine succeeded, in the same state. -/
lemma ok_of_answered {x : Routine σ Unit} {f : Unit → Answer} {d : Driver σ}
    (success : ((do pure (f (← x)) : Routine σ Answer) d).1.isOk = true) : (x d).1 = .ok () := by
  rw [(answered x f d).2] at success
  generalize (x d).1 = result at success ⊢
  obtain cause | ⟨⟩ := result
  · cases success
  · rfl

lemma eq_of_answered {x : Routine σ Unit} {f : Unit → Answer} {d : Driver σ}
    (success : ((do pure (f (← x)) : Routine σ Answer) d).1.isOk = true) :
    x d = (.ok (), ((do pure (f (← x)) : Routine σ Answer) d).2) :=
  Prod.ext (ok_of_answered success) (answered x f d).1.symm

/-- The cycle that an operation runs, if it runs one. -/
def Operation.passage? (op : Operation) (d : Driver σ) : Option (Passage σ) :=
  match op with
  | .measure => some ⟨d⟩
  | .read channel max =>
    if max ≠ 0 ∧ d.pollInterval = 0 then
      some ⟨{ d with streams := d.streams.modify channel (·.flush) }⟩
    else none
  | .selfTest _ => if d.stats.cycles = 0 then some ⟨d⟩ else none
  | _ => none

/-- Up to the cycle that an operation runs, nothing but the streams is touched. -/
lemma Operation.before_of_passage? {op : Operation} {d : Driver σ} {p : Passage σ}
    (within : op.passage? d = some p) : ∃ streams, p.before = { d with streams := streams } := by
  cases op with
  | measure =>
    cases within
    exact ⟨d.streams, rfl⟩
  | read channel max =>
    simp only [passage?] at within
    split at within
    · cases within
      exact ⟨_, rfl⟩
    · cases within
  | selfTest =>
    simp only [passage?] at within
    split at within
    · cases within
      exact ⟨d.streams, rfl⟩
    · cases within
  | _ => cases within

/-- The operation resets the chip. -/
def Operation.isReset : Operation → Bool
  | .initialise | .reset => true
  | _ => false

/-- Nothing was published, and no report put into a backlog. -/
structure Silent (d d' : Driver σ) : Prop where
  published : d'.published = d.published
  backlog : ∀ c, (d'.streams.get c).backlog.items <:+ (d.streams.get c).backlog.items

lemma Silent.of_same {d d' : Driver σ} (published : d'.published = d.published)
    (streams : d'.streams = d.streams) : Silent d d' :=
  ⟨published, fun _ => streams ▸ List.suffix_rfl⟩

lemma Silent.trans {d d' d'' : Driver σ} (h : Silent d d') (h' : Silent d' d'') :
    Silent d d'' where
  published := h'.published.trans h.published
  backlog c := (h'.backlog c).trans (h.backlog c)

lemma Idle.silent {d d' : Driver σ} (h : Idle d d') : Silent d d' := ⟨h.published, h.backlog⟩

/-- One operation of a run, told by the state in which it starts. -/
structure Step (σ : Type) where
  operation : Operation
  before : Driver σ

namespace Step

/-- The cycle within the step. -/
def passage? (s : Step σ) : Option (Passage σ) := s.operation.passage? s.before

@[simp] lemma passage?_measure (d : Driver σ) : (⟨.measure, d⟩ : Step σ).passage? = some ⟨d⟩ := rfl

lemma before_of_passage? {s : Step σ} {p : Passage σ} (within : s.passage? = some p) :
    ∃ streams, p.before = { s.before with streams := streams } :=
  Operation.before_of_passage? within

/-- A read that asks for something runs a cycle on demand, after it has dropped what is unread. -/
lemma passage?_read_eq_some_iff {c : Channel} {max : Nat} {d : Driver σ} {p : Passage σ} :
    (⟨.read c max, d⟩ : Step σ).passage? = some p ↔
      (max ≠ 0 ∧ d.pollInterval = 0) ∧ ⟨{ d with streams := d.streams.modify c (·.flush) }⟩ = p :=
  Option.ite_none_right_eq_some.trans (and_congr_right fun _ => Option.some_inj)

lemma passage?_read_eq_none_iff {c : Channel} {max : Nat} {d : Driver σ} :
    (⟨.read c max, d⟩ : Step σ).passage? = none ↔ ¬(max ≠ 0 ∧ d.pollInterval = 0) :=
  ite_eq_right_iff.trans (imp_congr_right fun _ => iff_of_false (Option.some_ne_none _) id)

/-- A self test runs a cycle if there was none before. -/
lemma passage?_selfTest_eq_some_iff {c : Channel} {d : Driver σ} {p : Passage σ} :
    (⟨.selfTest c, d⟩ : Step σ).passage? = some p ↔ d.stats.cycles = 0 ∧ ⟨d⟩ = p :=
  Option.ite_none_right_eq_some.trans (and_congr_right fun _ => Option.some_inj)

lemma passage?_selfTest_eq_none_iff {c : Channel} {d : Driver σ} :
    (⟨.selfTest c, d⟩ : Step σ).passage? = none ↔ d.stats.cycles ≠ 0 :=
  ite_eq_right_iff.trans (imp_congr_right fun _ => iff_of_false (Option.some_ne_none _) id)

variable [Transport σ]

def answer (s : Step σ) : Except Failure Answer := (perform s.operation s.before).1

/-- The state after the step. -/
def after (s : Step σ) : Driver σ := (perform s.operation s.before).2

/-- The chip was reset on request, with success. -/
def resets (s : Step σ) : Bool := s.operation.isReset && s.answer.isOk

def settles (s : Step σ) : Bool := s.passage?.any Passage.settles

def samples (s : Step σ) : Bool := s.passage?.any Passage.samples

def fetches (s : Step σ) : Bool := s.passage?.any Passage.fetches

def isGood (s : Step σ) : Bool := s.passage?.any Passage.isGood

def findsMismatch (s : Step σ) : Bool := s.passage?.any Passage.findsMismatch

def ordersReset (s : Step σ) : Bool := s.passage?.any Passage.ordersReset

def ordersRepair (s : Step σ) : Bool := s.passage?.any Passage.ordersRepair

def isBlind (s : Step σ) : Bool := s.passage?.any Passage.isBlind

/-- The step published nothing and put no report into a backlog. -/
def IsSilent (s : Step σ) : Prop := Silent s.before s.after

end Step

/-! ### Counting steps -/

namespace Step

lemma countP_singleton (p : Step σ → Bool) (s : Step σ) : [s].countP p = (p s).toNat := by
  rw [List.countP_singleton]
  cases p s with
  | false => rfl
  | true => rfl

lemma countP_cons (p : Step σ → Bool) (s : Step σ) (steps : List (Step σ)) :
    (s :: steps).countP p = (p s).toNat + steps.countP p := by
  rw [← List.singleton_append, List.countP_append, countP_singleton]

lemma countP_concat (p : Step σ → Bool) (past : List (Step σ)) (s : Step σ) :
    (past ++ [s]).countP p = past.countP p + (p s).toNat := by
  rw [List.countP_append, countP_singleton]

end Step

/-! ### Runs -/

/-- The cycles of a run. -/
def cycles (steps : List (Step σ)) : List (Passage σ) := steps.filterMap Step.passage?

lemma cycles_cons (s : Step σ) (steps : List (Step σ)) :
    cycles (s :: steps) = s.passage?.toList ++ cycles steps := by
  cases within : s.passage? with
  | none => simp [cycles, within]
  | some p => simp [cycles, within]

/-- What is the same for each two of a row of cycles. -/
lemma map_eq_of_same {β : Type} {same : Passage σ → Passage σ → Prop} {ps qs : List (Passage σ)}
    (all : List.Forall₂ same ps qs) {f : Passage σ → β}
    (reads : ∀ p q, same p q → f p = f q) : ps.map f = qs.map f := by
  induction all with
  | nil => rfl
  | cons first _ ih => rw [List.map_cons, List.map_cons, reads _ _ first, ih]

variable [Transport σ]

/-- The steps of a run of operations. -/
def history : List Operation → Driver σ → List (Step σ)
  | [], _ => []
  | op :: ops, d => ⟨op, d⟩ :: history ops (perform op d).2

/-- The first step of a run starts in the state of the run, and the others make up a run after
it. -/
lemma history_eq_cons {ops : List Operation} {d : Driver σ} {step : Step σ}
    {rest : List (Step σ)} (run : history ops d = step :: rest) :
    step.before = d ∧ ∃ ops', rest = history ops' step.after := by
  cases ops with
  | nil => cases run
  | cons op ops =>
    obtain ⟨rfl, rfl⟩ := List.cons.inj run
    exact ⟨rfl, ops, rfl⟩

@[simp] lemma operations_history (ops : List Operation) (d : Driver σ) :
    (history ops d).map Step.operation = ops := by
  induction ops generalizing d with
  | nil => rfl
  | cons op ops ih => exact congrArg (op :: ·) (ih (perform op d).2)

/-- The steps of a run carry out its operations. -/
lemma operation_mem {ops : List Operation} {d : Driver σ} {step : Step σ}
    (member : step ∈ history ops d) : step.operation ∈ ops := by
  rw [← operations_history ops d]
  exact List.mem_map_of_mem member

/-- What comes after a step of a run is a run from there. -/
lemma history_after {ops : List Operation} {d : Driver σ} {past : List (Step σ)} {step : Step σ}
    {later : List (Step σ)} (run : history ops d = past ++ step :: later) :
    ∃ ops', later = history ops' step.after := by
  induction past generalizing ops d with
  | nil => exact (history_eq_cons run).2
  | cons first past ih =>
    obtain ⟨-, ops', rest⟩ := history_eq_cons run
    exact ih rest.symm

/-- What holds at first and is kept by each step holds before a later step, and may speak of the
steps gone by. -/
lemma history_keeps {I : List (Step σ) → Driver σ → Prop} {ops : List Operation} {d : Driver σ}
    {past : List (Step σ)} {step : Step σ} {later : List (Step σ)}
    (run : history ops d = past ++ step :: later) (start : I [] d)
    (kept : ∀ early s, s ∈ past → I early s.before → I (early ++ [s]) s.after) :
    I past step.before := by
  suffices h : ∀ early late ops d, history ops d = late ++ step :: later → I early d →
      (∀ s ∈ late, s ∈ past) → I (early ++ late) step.before from
    h [] past ops d run start fun _ member => member
  intro early late
  induction late generalizing early with
  | nil =>
    intro ops d run here _
    rw [List.append_nil, (history_eq_cons run).1]
    exact here
  | cons s late ih =>
    intro ops d run here within
    obtain ⟨rfl, ops', rest⟩ := history_eq_cons run
    have next := kept early s (within s List.mem_cons_self) here
    have later := ih (early ++ [s]) ops' s.after rest.symm next
      fun s' member => within s' (List.mem_cons_of_mem s member)
    rwa [List.append_assoc] at later

/-- What holds at first and is kept by each step holds before every step of a run. -/
lemma before_of_mem {I : Driver σ → Prop} {ops : List Operation} {d : Driver σ} (start : I d)
    (kept : ∀ s : Step σ, I s.before → I s.after) : ∀ s ∈ history ops d, I s.before := by
  induction ops generalizing d with
  | nil => exact fun s member => by cases member
  | cons op ops ih =>
    intro s member
    rcases List.mem_cons.mp member with rfl | later
    · exact start
    · exact ih (kept ⟨op, d⟩ start) s later

/-- A run of two parts, and the step where they meet. -/
lemma history_append_cons (ops : List Operation) (op : Operation) (ops' : List Operation)
    (d : Driver σ) :
    history (ops ++ op :: ops') d =
      history ops d ++ ⟨op, (performAll ops d).2⟩ ::
        history ops' (perform op (performAll ops d).2).2 := by
  induction ops generalizing d with
  | nil => rfl
  | cons first ops ih => exact congrArg (⟨first, d⟩ :: ·) (ih (perform first d).2)

/-- A run of two parts ends where the second one does. -/
lemma performAll_append_cons (ops : List Operation) (op : Operation) (ops' : List Operation)
    (d : Driver σ) :
    (performAll (ops ++ op :: ops') d).2 =
      (performAll ops' (perform op (performAll ops d).2).2).2 := by
  induction ops generalizing d with
  | nil => rfl
  | cons first ops ih => exact ih (perform first d).2

/-! ### What a step can do -/

/-- Nothing but touches, or a reset that took between touches. -/
def Clearing {α : Type} (x : Routine σ α) : Prop := ∀ d,
  (∃ cause, (x d).1 = .error cause) ∧ Quiet True d (x d).2 ∨
    (∃ a, (x d).1 = .ok a) ∧ ∃ between, Quiet True d between ∧
      Quiet True { between with watch := between.watch.clear } (x d).2

lemma reset_clearing : Clearing (reset (σ := σ)) := by
  intro d
  rcases reset_cases d with ⟨cause, failed, quiet⟩ | ⟨took, between, quiet, after⟩
  · exact .inl ⟨⟨cause, failed⟩, quiet⟩
  · exact .inr ⟨⟨(), took⟩, between, quiet, after ▸ .refl _⟩

lemma Clearing.bind {α β : Type} {x : Routine σ α} {f : α → Routine σ β} (hx : Clearing x)
    (hf : ∀ a, Routine.Quietly True (f a)) (ends : ∀ a d, ∃ b, (f a d).1 = .ok b) :
    Clearing (x >>= f) := by
  intro d
  have first := hx d
  rw [bind_apply]
  generalize x d = r at first ⊢
  obtain ⟨cause | a, d₁⟩ := r
  · rcases first with ⟨_, quiet⟩ | ⟨⟨_, impossible⟩, _⟩
    · exact .inl ⟨⟨cause, rfl⟩, quiet⟩
    · cases impossible
  · rcases first with ⟨⟨_, impossible⟩, _⟩ | ⟨_, between, quiet, quiet'⟩
    · cases impossible
    · exact .inr ⟨ends a d₁, between, quiet, quiet'.trans (hf a d₁)⟩

lemma initialise_clearing : Clearing (initialise (σ := σ)) := by
  intro d
  have probed : Quiet True d (probe d).2 := probe_quietly d
  rw [initialise, bind_apply]
  generalize probe d = r at probed ⊢
  obtain ⟨cause | ⟨⟩, d₁⟩ := r
  · exact .inl ⟨⟨cause, rfl⟩, probed⟩
  · have ready := reset_clearing.bind (f := fun _ => do
      let d ← look
      note (.ready d.inForce.rate d.inForce.fullScale.multiple d.inForce.onChipFilter))
      (fun _ => .bind .look fun _ => .note _) (fun _ _ => ⟨(), rfl⟩) d₁
    rcases ready with ⟨failed, quiet⟩ | ⟨took, between, quiet, quiet'⟩
    · exact .inl ⟨failed, probed.trans quiet⟩
    · exact .inr ⟨took, between, probed.trans quiet, quiet'⟩

/-- The ways a step can go. -/
inductive Progress (s : Step σ) : Prop where
  | quiet (without : s.passage? = none) (vain : s.resets = false)
      (quiet : Quiet (s.operation.isReset = true) s.before s.after)
  | reset {between : Driver σ} (without : s.passage? = none) (took : s.resets = true)
      (first : Quiet True s.before between)
      (last : Quiet True { between with watch := between.watch.clear } s.after)
  | cycle {p : Passage σ} (within : s.passage? = some p) (vain : s.resets = false)
      (first : Quiet False s.before p.before) (last : Quiet False p.after s.after)

lemma Progress.of_quietly {s : Step σ} (without : s.passage? = none)
    (gentle : s.operation.isReset = false)
    (quietly : (perform (σ := σ) s.operation).Quietly (s.operation.isReset = true)) :
    Progress s := by
  refine .quiet without ?_ (quietly s.before)
  simp [Step.resets, gentle]

lemma Progress.of_clearing {s : Step σ} (without : s.passage? = none)
    (reset : s.operation.isReset = true) (clearing : Clearing (perform (σ := σ) s.operation)) :
    Progress s := by
  rcases clearing s.before with
    ⟨⟨cause, failed⟩, quiet⟩ | ⟨⟨answer, took⟩, between, first, last⟩
  · refine .quiet without ?_ (quiet.mono fun _ => reset)
    simp [Step.resets, Step.answer, failed, Except.isOk, Except.toBool]
  · refine .reset without ?_ first last
    simp [Step.resets, Step.answer, took, reset, Except.isOk, Except.toBool]

lemma Progress.of_read (c : Channel) (max : Nat) (d : Driver σ) :
    Progress ⟨.read c max, d⟩ := by
  by_cases nothing : max = 0
  · subst nothing
    refine .quiet rfl rfl ?_
    simp only [Step.after, perform, read_zero]
    exact .refl d
  · by_cases onDemand : d.pollInterval = 0
    · have within : (Operation.read c max).passage? d =
          some ⟨{ d with streams := d.streams.modify c (·.flush) }⟩ := if_pos ⟨nothing, onDemand⟩
      refine .cycle within rfl (.single (.aside (aside_flush c d))) ?_
      refine .trans ?_ (Quietly.after (fun _ => .pure _) (read c max) d)
      rw [read_of_demand c nothing onDemand]
      exact Quietly.after (fun _ => countedTake_quietly c max) measure _
    · have without : (Operation.read c max).passage? d = none :=
        if_neg fun both => onDemand both.2
      refine .quiet without rfl ?_
      refine Quiet.mono False.elim (.trans ?_ (Quietly.after (fun _ => .pure _) (read c max) d))
      rw [read_of_polled c nothing onDemand]
      exact countedTake_quietly c max d

/-- The verdict of a self test is found without a transfer. -/
lemma verdict_quietly (c : Channel) (sampled : Bool) :
    Quietly False (if sampled = true then do
        let d ← look (σ := σ)
        match c with
        | .accel => pure d.streams.accel.calibration.accelPasses
        | .gyro => pure d.streams.gyro.calibration.gyroPasses
      else pure false) := by
  split
  · refine .bind .look fun d => ?_
    cases c with
    | accel => exact .pure _
    | gyro => exact .pure _
  · exact .pure _

lemma selfTest_after (c : Channel) (d : Driver σ) :
    Quiet False (ensureSampled d).2 (perform (.selfTest c) d).2 :=
  .trans (Quietly.after (verdict_quietly c) ensureSampled d)
    (Quietly.after (fun _ => .pure _) (selfTest c) d)

lemma Progress.of_selfTest (c : Channel) (d : Driver σ) : Progress ⟨.selfTest c, d⟩ := by
  by_cases fresh : d.stats.cycles = 0
  · have within : (Operation.selfTest c).passage? d = some ⟨d⟩ := if_pos fresh
    refine .cycle within rfl (.refl d) (.trans ?_ (selfTest_after c d))
    rw [ensureSampled, bind_apply]
    simp only [look_apply]
    rw [if_pos fresh]
    refine Quietly.after (fun result => ?_) (attempt measure) d
    cases result with
    | ok => exact .bind .look fun _ => .pure _
    | error cause => exact .bind (.note _) fun _ => .bind .look fun _ => .pure _
  · have without : (Operation.selfTest c).passage? d = none := if_neg fresh
    refine .quiet without rfl (Quiet.mono False.elim (.trans ?_ (selfTest_after c d)))
    rw [ensureSampled, bind_apply]
    simp only [look_apply]
    rw [if_neg fresh]
    exact .refl d

/-- A step goes in one of these ways. -/
lemma Progress.of_step (s : Step σ) : Progress s := by
  obtain ⟨op, d⟩ := s
  cases op with
  | initialise =>
    exact .of_clearing rfl rfl (initialise_clearing.bind (fun _ => .pure _) fun _ _ => ⟨_, rfl⟩)
  | reset =>
    exact .of_clearing rfl rfl (reset_clearing.bind (fun _ => .pure _) fun _ _ => ⟨_, rfl⟩)
  | measure => exact .cycle rfl rfl (.refl d) (Quietly.after (fun _ => .pure _) measure d)
  | read channel max => exact .of_read channel max d
  | selfTest channel => exact .of_selfTest channel d
  | probe => exact .of_quietly rfl rfl (.bind probe_quietly fun _ => .pure _)
  | setPollInterval us =>
    exact .of_quietly rfl rfl (.bind (setPollInterval_quietly us) fun _ => .pure _)
  | setLowPass channel hz =>
    exact .of_quietly rfl rfl (.bind (setLowPass_quietly channel hz) fun _ => .pure _)
  | setSampleRate hz =>
    exact .of_quietly rfl rfl (.bind (setSampleRate_quietly hz) fun _ => .pure _)
  | setFullScale g =>
    exact .of_quietly rfl rfl (.bind (programFullScale_quietly g) fun _ => .pure _)
  | setQueueDepth channel depth =>
    exact .of_quietly rfl rfl (.bind (setQueueDepth_quietly channel depth) fun _ => .pure _)
  | setCalibration channel c =>
    exact .of_quietly rfl rfl (.bind (setCalibration_quietly channel c) fun _ => .pure _)
  | forgetHistory => exact .of_quietly rfl rfl (.bind forgetHistory_quietly fun _ => .pure _)
  | setMuted muted => exact .of_quietly rfl rfl (.bind (setMuted_quietly muted) fun _ => .pure _)
  | dumpRegisters => exact .of_quietly rfl rfl (.bind dumpRegisters_quietly fun _ => .pure _)
  | provokeSlowRead => exact .of_quietly rfl rfl (.bind provokeSlowRead_quietly fun _ => .pure _)
  | summarise => exact .of_quietly rfl rfl (.bind summarise_quietly fun _ => .pure _)
  | wait us => exact .of_quietly rfl rfl (.bind (.delay us) fun _ => .pure _)

/-- An operation that does not reset the chip does not do so with success. -/
lemma Step.vain_of_gentle {s : Step σ} (gentle : s.operation.isReset = false) :
    s.resets = false := by
  simp [resets, gentle]

/-- A step that runs a cycle is not a reset. -/
lemma Step.vain_of_passage {s : Step σ} (h : s.passage? ≠ none) : s.resets = false := by
  cases Progress.of_step s with
  | quiet _ vain => exact vain
  | reset without => exact absurd without h
  | cycle _ vain => exact vain

end Driver

end InertialSensor
