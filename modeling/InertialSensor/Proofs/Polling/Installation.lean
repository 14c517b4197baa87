import InertialSensor.Proofs.Polling.Placements

/-!
# Starts, stops and holds

A placement is in use exactly if the last instrument that was started there has not been stopped.
`Effect` says all that a request can do to the number of what is at a placement: a start that
succeeds brings in the next number, a stop takes away what there is, and nothing else changes it.

Numbers are never given out twice. That is why a hold on an instrument that was stopped stays
without one, whatever is started at the same placement later on.
-/

namespace InertialSensor

namespace Installation

variable {σ : Type} [Transport σ] {s : Installation σ} {p q : Placement}
  {opening : Instrument.Opening σ}

/-! ### Requests -/

/-- What can be asked of an installation. -/
inductive Request (σ : Type) where
  /-- A start with what a factory opens; nobody else has let that go. -/
  | start (p : Placement) (opening : Instrument.Opening σ)
      (owned : ∀ i, opening.result = .ok i → i.released = false)
  | stop (p : Placement)
  /-- Anything that the owner asks of the instrument at a placement. -/
  | work (p : Placement) (r : Instrument.Request)
  /-- Anything that is asked through a front end. -/
  | use (h : Hold) (r : Instrument.Request)

namespace Request

/-- The placement that is asked for. -/
def placement : Request σ → Placement
  | start p .. | stop p | work p _ => p
  | use h _ => h.placement

/-- The placement at which a start is asked for. -/
def start? : Request σ → Option Placement
  | start p .. => some p
  | _ => none

/-- The placement at which a stop is asked for. -/
def stop? : Request σ → Option Placement
  | stop p => some p
  | _ => none

omit [Transport σ] in
lemma placement_of_start? {r : Request σ} (asked : r.start? = some p) : r.placement = p := by
  cases r with
  | start => exact Option.some.inj asked
  | stop | work | use => cases asked

omit [Transport σ] in
lemma placement_of_stop? {r : Request σ} (asked : r.stop? = some p) : r.placement = p := by
  cases r with
  | stop => exact Option.some.inj asked
  | start | work | use => cases asked

omit [Transport σ] in
lemma start?_of_stop? {r : Request σ} (asked : r.stop? = some p) : r.start? = none := by
  cases r with
  | stop => rfl
  | start | work | use => cases asked

/-- Carries out one request. -/
def carryOut : Request σ → Installation σ → Except Failure Unit × Installation σ
  | start p opening _, s => Id.run (s.start p (pure opening))
  | stop p, s => s.stop p
  | work p r, s =>
    ((s.withInstrument p r.carryOut).1.getD (.error .notRunning), (s.withInstrument p r.carryOut).2)
  | use h r, s => s.withHeld h r.carryOut

end Request

/-- One request of a run, told by the installation to which it is made. -/
structure Call (σ : Type) where
  request : Request σ
  before : Installation σ

namespace Call

def answer (c : Call σ) : Except Failure Unit := (c.request.carryOut c.before).1

/-- An instrument was started at the placement. -/
def Starts (p : Placement) (c : Call σ) : Prop := c.request.start? = some p ∧ c.answer = .ok ()

/-- A stop was asked for at the placement. -/
def Stops (p : Placement) (c : Call σ) : Prop := c.request.stop? = some p

end Call

/-- The calls of a run of requests. -/
def calls : List (Request σ) → Installation σ → List (Call σ)
  | [], _ => []
  | r :: rs, s => ⟨r, s⟩ :: calls rs (r.carryOut s).2

/-- The installation after a run of requests. -/
def carryOutAll : List (Request σ) → Installation σ → Installation σ
  | [], s => s
  | r :: rs, s => carryOutAll rs (r.carryOut s).2

/-- An installation that was empty, after a run of requests. -/
def installed (rs : List (Request σ)) : Installation σ := carryOutAll rs {}

/-- There is a last call that started an instrument at the placement, and no stop came after it. -/
def InUse (p : Placement) (past : List (Call σ)) : Prop :=
  ∃ earlier c later, past = earlier ++ c :: later ∧ c.Starts p ∧
    ∀ c' ∈ later, ¬ c'.Starts p ∧ ¬ c'.Stops p

lemma calls_concat (rs : List (Request σ)) (r : Request σ) (s : Installation σ) :
    calls (rs ++ [r]) s = calls rs s ++ [⟨r, carryOutAll rs s⟩] := by
  induction rs generalizing s with
  | nil => rfl
  | cons r' rs ih => exact congrArg (_ :: ·) (ih _)

lemma carryOutAll_append (rs rs' : List (Request σ)) (s : Installation σ) :
    carryOutAll (rs ++ rs') s = carryOutAll rs' (carryOutAll rs s) := by
  induction rs generalizing s with
  | nil => rfl
  | cons r rs ih => exact ih _

/-! ### One call -/

lemma Worked.of_work (p : Placement) (r : Instrument.Request) (s : Installation σ) :
    Worked p s ((Request.work p r).carryOut s).2 :=
  .of_withInstrument (Instrument.released_carryOut r) p s

lemma Worked.of_use (h : Hold) (r : Instrument.Request) (s : Installation σ) :
    Worked h.placement s ((Request.use h r).carryOut s).2 :=
  .of_withHeld (Instrument.released_carryOut r) h s

/-- A request leaves alone what is at other placements. -/
lemma occupant?_carryOut_of_ne {r : Request σ} (other : q ≠ r.placement) (s : Installation σ) :
    (r.carryOut s).2.occupant? q = s.occupant? q := by
  cases r with
  | start p opening owned => exact (Outcome.of_start p opening s).elsewhere other
  | stop p => exact stop_elsewhere other s
  | work p r => exact (Worked.of_work p r s).elsewhere other
  | use h r => exact (Worked.of_use h r s).elsewhere other

lemma nextSerial_le_carryOut (r : Request σ) (s : Installation σ) :
    s.nextSerial ≤ (r.carryOut s).2.nextSerial := by
  cases r with
  | start p opening owned => exact (Outcome.of_start p opening s).nextSerial_le
  | stop p => exact (nextSerial_stop p s).ge
  | work p r => exact (Worked.of_work p r s).nextSerial.ge
  | use h r => exact (Worked.of_use h r s).nextSerial.ge

/-- The ways in which a request, its answer and the installation after it bear on a placement. -/
inductive Effect (p : Placement) (r : Request σ) (s : Installation σ)
    (answer : Except Failure Unit) (s' : Installation σ) : Prop where
  | started (asked : r.start? = some p) (answered : answer = .ok ()) (free : p ∉ s.running)
      (there : s'.tag p = some (s.nextSerial, false)) (counted : s'.nextSerial = s.nextSerial + 1)
  | stopped (asked : r.stop? = some p) (gone : s'.tag p = none)
  | kept (starts : ¬ (r.start? = some p ∧ answer = .ok ())) (stops : r.stop? ≠ some p)
      (same : s'.tag p = s.tag p)

namespace Effect

lemma of_outcome {answer : Except Failure Unit} {s' : Installation σ}
    (owned : ∀ i, opening.result = .ok i → i.released = false)
    (outcome : Outcome p opening s answer s') : Effect p (.start p opening owned) s answer s' := by
  cases outcome with
  | refused => exact .kept (fun starts => nomatch starts.2) nofun rfl
  | failed =>
    refine .kept (fun starts => nomatch starts.2) nofun (tag_of_occupant?_eq ?_)
    exact occupant?_with p _ _ s
  | started free _ held =>
    refine .started rfl rfl free ?_ rfl
    rw [tag, occupant?_with, occupant?_place_self, Option.map_some, held owned]

lemma of_stop (p : Placement) (s : Installation σ) :
    Effect p (.stop p) s (s.stop p).1 (s.stop p).2 := by
  by_cases used : p ∈ s.running
  · obtain ⟨log, left⟩ := stop_of_mem_running used
    rw [left]
    refine .stopped rfl ?_
    rw [tag, occupant?_with, occupant?_place_self, Option.map_none]
  · rw [stop_of_not_mem_running used]
    rw [mem_running_iff_tag, Option.not_isSome_iff_eq_none] at used
    exact .stopped rfl used

lemma of_carryOut (p : Placement) (r : Request σ) (s : Installation σ) :
    Effect p r s (r.carryOut s).1 (r.carryOut s).2 := by
  by_cases here : p = r.placement
  · subst here
    cases r with
    | start p opening owned => exact of_outcome owned (.of_start p opening s)
    | stop p => exact of_stop p s
    | work p r => exact .kept nofun nofun (Worked.of_work p r s).tag
    | use h r => exact .kept nofun nofun (Worked.of_use h r s).tag
  · refine .kept ?_ ?_ (tag_of_occupant?_eq (occupant?_carryOut_of_ne here s))
    · rintro ⟨asked, -⟩
      exact here (Request.placement_of_start? asked).symm
    · intro asked
      exact here (Request.placement_of_stop? asked).symm

end Effect

/-! ### Placements in use -/

lemma inUse_concat {past : List (Call σ)} {c : Call σ} :
    InUse p (past ++ [c]) ↔ c.Starts p ∨ InUse p past ∧ ¬ c.Starts p ∧ ¬ c.Stops p := by
  constructor
  · rintro ⟨earlier, c', later, split, starts, since⟩
    rcases List.eq_nil_or_concat' later with rfl | ⟨later, last, rfl⟩
    · have same := List.append_inj_right' split rfl
      cases same
      exact .inl starts
    · rw [← List.cons_append, ← List.append_assoc] at split
      obtain ⟨rfl, same⟩ := List.append_inj' split rfl
      cases same
      refine .inr ⟨⟨earlier, c', later, rfl, starts, fun c'' between => ?_⟩, ?_⟩
      · exact since c'' (List.mem_append_left _ between)
      · exact since _ (List.mem_append_right _ (List.mem_singleton_self _))
  · rintro (starts | ⟨⟨earlier, c', later, rfl, starts, since⟩, neither⟩)
    · exact ⟨past, c, [], rfl, starts, List.forall_mem_nil _⟩
    · refine ⟨earlier, c', later ++ [c], by simp, starts, fun c'' between => ?_⟩
      rcases List.mem_append.mp between with before | last
      · exact since c'' before
      · cases List.mem_singleton.mp last
        exact neither

omit [Transport σ] in
lemma Effect.mem_running_iff {r : Request σ} {answer : Except Failure Unit} {s' : Installation σ}
    (effect : Effect p r s answer s') : p ∈ s'.running ↔
      r.start? = some p ∧ answer = .ok () ∨
        p ∈ s.running ∧ ¬ (r.start? = some p ∧ answer = .ok ()) ∧ r.stop? ≠ some p := by
  cases effect with
  | started asked answered _ there =>
    rw [mem_running_iff_tag, there]
    exact iff_of_true rfl (.inl ⟨asked, answered⟩)
  | stopped asked gone =>
    rw [mem_running_iff_tag, gone, Request.start?_of_stop? asked]
    refine iff_of_false Bool.false_ne_true ?_
    rintro (⟨starts, -⟩ | ⟨-, -, stops⟩)
    · cases starts
    · exact stops asked
  | kept starts stops same =>
    rw [mem_running_iff_tag, same, ← mem_running_iff_tag]
    exact ⟨fun used => .inr ⟨used, starts, stops⟩, fun
      | .inl begun => absurd begun starts
      | .inr ⟨used, _⟩ => used⟩

/-- After any requests to an installation that was empty. -/
lemma mem_running_iff (p : Placement) (rs : List (Request σ)) :
    p ∈ (carryOutAll rs {}).running ↔ InUse p (calls rs {}) := by
  induction rs using List.reverseRecOn with
  | nil =>
    refine iff_of_false ?_ ?_
    · rw [mem_running_iff_tag]
      exact tag_empty p ▸ Bool.false_ne_true
    · rintro ⟨earlier, c, later, split, -⟩
      exact absurd split (by simp [calls])
  | append_singleton rs r ih =>
    rw [carryOutAll_append, calls_concat, inUse_concat, ← ih]
    exact (Effect.of_carryOut p r _).mem_running_iff

/-! ### How long a hold lasts -/

lemma Tidy.carryOut (tidy : Tidy s) (r : Request σ) : Tidy (r.carryOut s).2 := by
  intro p t there
  cases Effect.of_carryOut p r s with
  | started _ _ _ new counted =>
    cases there.symm.trans new
    exact ⟨counted ▸ Nat.lt_succ_self _, rfl⟩
  | stopped _ gone => cases there.symm.trans gone
  | kept _ _ same =>
    obtain ⟨given, held⟩ := tidy p t (same ▸ there)
    exact ⟨given.trans_le (nextSerial_le_carryOut r s), held⟩

lemma Tidy.carryOutAll (tidy : Tidy s) (rs : List (Request σ)) :
    Tidy (Installation.carryOutAll rs s) := by
  induction rs generalizing s with
  | nil => exact tidy
  | cons r rs ih => exact ih (tidy.carryOut r)

lemma Gone.carryOut {h : Hold} (gone : Gone h s) (r : Request σ) : Gone h (r.carryOut s).2 := by
  obtain ⟨given, other⟩ := gone
  refine ⟨given.trans_le (nextSerial_le_carryOut r s), fun t there => ?_⟩
  cases Effect.of_carryOut h.placement r s with
  | started _ _ _ new =>
    cases there.symm.trans new
    exact given.ne'
  | stopped _ gone => cases there.symm.trans gone
  | kept _ _ same => exact other t (same ▸ there)

lemma Reaches.carryOut {h : Hold} (reaches : Reaches h s) {r : Request σ}
    (kept : r.stop? ≠ some h.placement) : Reaches h (r.carryOut s).2 := by
  cases Effect.of_carryOut h.placement r s with
  | started _ _ free =>
    rw [mem_running_iff_tag, reaches] at free
    exact absurd rfl free
  | stopped asked => exact absurd asked kept
  | kept _ _ same => exact same.trans reaches

lemma Reaches.gone {h : Hold} (tidy : Tidy s) (reaches : Reaches h s) {r : Request σ}
    (stops : r.stop? = some h.placement) : Gone h (r.carryOut s).2 := by
  refine ⟨(tidy _ _ reaches).1.trans_le (nextSerial_le_carryOut r s), ?_⟩
  cases Effect.of_carryOut h.placement r s with
  | started asked => cases (Request.start?_of_stop? stops).symm.trans asked
  | stopped _ gone =>
    rw [gone]
    exact nofun
  | kept _ other => exact absurd stops other

lemma Gone.carryOutAll {h : Hold} (gone : Gone h s) (rs : List (Request σ)) :
    Gone h (Installation.carryOutAll rs s) := by
  induction rs generalizing s with
  | nil => exact gone
  | cons r rs ih => exact ih (gone.carryOut r)

/-- A hold reaches its instrument for as long as no stop is asked for. -/
lemma Reaches.carryOutAll {h : Hold} (reaches : Reaches h s) {rs : List (Request σ)}
    (kept : ∀ c ∈ calls rs s, ¬ c.Stops h.placement) :
    Reaches h (Installation.carryOutAll rs s) := by
  induction rs generalizing s with
  | nil => exact reaches
  | cons r rs ih =>
    obtain ⟨first, rest⟩ := List.forall_mem_cons.mp kept
    exact ih (reaches.carryOut first) rest

/-- From the first stop on it is without one. -/
lemma Reaches.gone_of_stop {h : Hold} (tidy : Tidy s) (reaches : Reaches h s)
    {rs : List (Request σ)} (stopped : ∃ c ∈ calls rs s, c.Stops h.placement) :
    Gone h (Installation.carryOutAll rs s) := by
  induction rs generalizing s with
  | nil =>
    obtain ⟨c, asked, -⟩ := stopped
    cases asked
  | cons r rs ih =>
    by_cases first : r.stop? = some h.placement
    · exact (reaches.gone tidy first).carryOutAll rs
    · refine ih (tidy.carryOut r) (reaches.carryOut first) ?_
      obtain ⟨c, asked, stops⟩ := stopped
      rcases List.mem_cons.mp asked with rfl | later
      · exact absurd stops first
      · exact ⟨c, later, stops⟩

/-! ### Any run -/

/-- A placement is given to one instrument at a time, and a start that fails gives it to none. -/
structure Exclusive (s : Installation σ) : Prop where
  /-- At a placement in use the factory is not called. -/
  occupied : ∀ p ∈ s.running, ∀ {m : Type → Type} [Monad m] (factory : m (Instrument.Opening σ)),
    s.start p factory = pure (.error (.alreadyStarted p), s)
  /-- At a free placement it is called once. -/
  free : ∀ p ∉ s.running, ∀ {m : Type → Type} [Monad m] (factory : m (Instrument.Opening σ)),
    s.start p factory = factory >>= fun opening => pure (Id.run (s.start p (pure opening)))
  /-- Only the factory, or the instrument that it opened, can fail there. -/
  answer : ∀ p ∉ s.running, ∀ opening : Instrument.Opening σ,
    (Id.run (s.start p (pure opening))).1 = opening.result >>= fun i => i.start.1
  /-- A start that fails leaves no more behind than what was noted down. -/
  failed : ∀ p, ∀ opening : Instrument.Opening σ, (Id.run (s.start p (pure opening))).1 ≠ .ok () →
    ∃ log, (Id.run (s.start p (pure opening))).2 = { s with log := log }
  stop : ∀ p ∉ s.running, s.stop p = (.error .notRunning, s)

lemma exclusive (s : Installation σ) : Exclusive s where
  occupied _ used _ _ := start_of_mem_running used
  free _ free _ _ := start_of_not_mem_running free
  answer p free opening := by
    have outcome := Outcome.of_start p opening s
    generalize (Id.run (s.start p (pure opening))).1 = answer at outcome ⊢
    generalize (Id.run (s.start p (pure opening))).2 = s' at outcome
    cases outcome with
    | refused used => exact absurd used free
    | failed _ h | started _ h => exact h.symm
  failed p opening failed := by
    have outcome := Outcome.of_start p opening s
    generalize (Id.run (s.start p (pure opening))).1 = answer at outcome failed
    generalize (Id.run (s.start p (pure opening))).2 = s' at outcome ⊢
    cases outcome with
    | refused => exact ⟨s.log, rfl⟩
    | failed => exact ⟨_, rfl⟩
    | started => exact absurd rfl failed
  stop _ free := stop_of_not_mem_running free

/-- What is in use is decided by the last start that succeeded and by the stops after it, whatever
else is asked for and whatever starts fail. A hold lasts until a stop is asked for at its placement,
and does not come back with the next instrument there; what is asked for at the other placement does
nothing to it. -/
theorem in_use_since_last_start (rs : List (Request σ)) :
    (installed rs).running.Sublist [.internal, .external] ∧
      (∀ p, p ∈ (installed rs).running ↔ InUse p (calls rs {})) ∧
      Exclusive (installed rs) ∧
      (∀ earlier later p h, rs = earlier ++ later → (installed earlier).hold p = .ok h →
        ((∃ c ∈ calls later (installed earlier), c.Stops p) → Severed h (installed rs)) ∧
          ((∀ c ∈ calls later (installed earlier), ¬ c.Stops p) → Connected h (installed rs))) ∧
      ∀ r : Request σ, ∀ p ≠ r.placement,
        (r.carryOut (installed rs)).2.occupant? p = (installed rs).occupant? p := by
  refine ⟨List.filter_sublist, fun p => mem_running_iff p rs, exclusive _, ?_,
    fun r p other => occupant?_carryOut_of_ne other _⟩
  rintro earlier later p h rfl held
  have tidy : Tidy (installed earlier) := Tidy.empty.carryOutAll earlier
  have whole : installed (earlier ++ later) = carryOutAll later (installed earlier) :=
    carryOutAll_append earlier later {}
  obtain ⟨rfl, reaches⟩ := Reaches.of_hold tidy held
  rw [whole]
  exact ⟨fun stopped => (reaches.gone_of_stop tidy stopped).severed,
    fun kept => (reaches.carryOutAll kept).connected⟩

/-! ### An installation of sensors behind planned faults -/

open Simulation

/-- A sensor behind planned faults, brought up. -/
def openedOver (plan : List Fault) : Instrument.Opening (FaultPlan Sensor) where
  result := .ok (Instrument.openedOver plan)

/-- A start of it. -/
def startOver (p : Placement) (plan : List Fault) : Request (FaultPlan Sensor) :=
  .start p (openedOver plan) (by rintro _ ⟨⟩; rfl)

/-- A start that fails on the bus, two that succeed, and another one after a stop. -/
def restarts : List (Request (FaultPlan Sensor)) :=
  [startOver .internal Instrument.failsAfterBringUp, startOver .internal [],
    startOver .external [], .stop .internal, startOver .internal []]

/-- The start that failed does not count, and a hold taken before the stop is not served by the
instrument that was started after it. -/
theorem severed_after_restart :
    (installed (restarts.take 1)).running = [] ∧
      (installed restarts).running = [.internal, .external] ∧
      Severed ⟨.internal, 0⟩ (installed restarts) ∧
      Connected ⟨.external, 1⟩ (installed restarts) := by
  have failed : (installed (restarts.take 1)).running = [] := by decide +kernel
  have running : (installed restarts).running = [.internal, .external] := by decide +kernel
  have internal : Reaches ⟨.internal, 0⟩ (installed (restarts.take 3)) := by
    unfold Reaches
    decide +kernel
  have external : Reaches ⟨.external, 1⟩ (installed (restarts.take 3)) := by
    unfold Reaches
    decide +kernel
  obtain ⟨-, -, -, holds, -⟩ := in_use_since_last_start restarts
  refine ⟨failed, running, ?_, ?_⟩
  · have held := hold_eq_ok_iff.mpr ⟨rfl, false, internal⟩
    exact (holds _ (restarts.drop 3) _ _ rfl held).1 ⟨_, List.mem_cons_self, rfl⟩
  · have held := hold_eq_ok_iff.mpr ⟨rfl, false, external⟩
    refine (holds _ (restarts.drop 3) _ _ rfl held).2 fun c asked stops => ?_
    rcases List.mem_cons.mp asked with rfl | asked
    · cases stops
    · cases List.mem_singleton.mp asked
      cases stops

end Installation

end InertialSensor
