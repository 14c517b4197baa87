import InertialSensor.Polling.Installation
import InertialSensor.Proofs.Polling.Mode

/-!
# Placements and holds

What a single start, a single stop and work on an instrument do to an installation. `Outcome` says
how a start can end, and `Worked` what can come of work on one instrument: neither they nor a stop
bear on the other placement.

Of what is at a placement, a hold looks at nothing but the instrument's number and whether it still
belongs to its owner (`tag`).
-/

namespace InertialSensor

/-! ### The owner's instrument -/

namespace Instrument

variable {σ : Type} [Transport σ] {p : Polling} {i i' : Instrument σ}

omit [Transport σ] in
lemma Turn.held {answer : Except Failure Unit} (turn : Turn p i answer i') :
    i'.released = i.released := by
  cases turn with
  | refused | lost => rfl
  | manual _ _ _ held | periodic _ _ _ _ held => exact held

omit [Transport σ] in
lemma released_of_modes (same : i'.modes = i.modes) : i'.released = i.released :=
  congrArg (fun modes => modes.2.2) same

/-- No request to an instrument lets it go. -/
lemma released_carryOut (r : Request) (i : Instrument σ) :
    (r.carryOut i).2.released = i.released := by
  cases r with
  | setPolling | start | stop => exact (Turn.of_carryOut rfl i).held
  | operate => rfl
  | tick => exact released_of_modes i.modes_tick
  | awaitWindow channel ms =>
    dsimp only [Request.carryOut, awaitWindow]
    split
    · exact released_of_modes (modes_tickUntilClosed channel _ i)
    · rfl

omit [Transport σ] in
lemma released_throughFrontEnd {α : Type} {f : Instrument σ → Except Failure α × Instrument σ}
    (kept : ∀ i, (f i).2.released = i.released) (i : Instrument σ) :
    (i.throughFrontEnd f).2.released = i.released := by
  rw [throughFrontEnd]
  split
  · rfl
  · exact kept i

end Instrument

namespace Installation

variable {σ : Type} {s : Installation σ} {p q : Placement}

/-! ### Placements -/

@[simp]
lemma occupant?_place_self (p : Placement) (o : Option (Occupant σ)) (s : Installation σ) :
    (s.place p o).occupant? p = o := by
  cases p <;> rfl

lemma occupant?_place_of_ne (other : q ≠ p) (o : Option (Occupant σ)) (s : Installation σ) :
    (s.place p o).occupant? q = s.occupant? q := by
  cases p with
  | internal =>
    cases q with
    | internal => exact absurd rfl other
    | external => rfl
  | external =>
    cases q with
    | internal => rfl
    | external => exact absurd rfl other

@[simp]
lemma nextSerial_place (p : Placement) (o : Option (Occupant σ)) (s : Installation σ) :
    (s.place p o).nextSerial = s.nextSerial := by
  cases p <;> rfl

lemma place_place (p : Placement) (o o' : Option (Occupant σ)) (s : Installation σ) :
    (s.place p o).place p o' = s.place p o' := by
  cases p <;> rfl

/-- The next number and what was noted down are apart from what is at a placement. -/
@[simp]
lemma occupant?_with (p : Placement) (n : Nat) (log : Array Event) (s : Installation σ) :
    occupant? p { s with nextSerial := n, log := log } = s.occupant? p := by
  cases p <;> rfl

lemma place_with (p : Placement) (o : Option (Occupant σ)) (log : Array Event)
    (s : Installation σ) : place p o { s with log := log } = { s.place p o with log := log } := by
  cases p <;> rfl

lemma mem_running : p ∈ s.running ↔ (s.occupant? p).isSome := by
  rw [running, List.mem_filter]
  exact and_iff_right (by cases p <;> decide)

lemma occupant?_of_not_mem_running (free : p ∉ s.running) : s.occupant? p = none := by
  rw [mem_running, Option.not_isSome_iff_eq_none] at free
  exact free

/-- The number of what is at a placement, and whether it was let go. -/
def tag (p : Placement) (s : Installation σ) : Option (Nat × Bool) :=
  (s.occupant? p).map fun o => (o.serial, o.instrument.released)

lemma mem_running_iff_tag : p ∈ s.running ↔ (s.tag p).isSome := by
  rw [mem_running, tag, Option.isSome_map]

lemma tag_empty (p : Placement) : ({} : Installation σ).tag p = none := by
  cases p <;> rfl

lemma tag_of_occupant?_eq {s' : Installation σ} (same : s'.occupant? p = s.occupant? p) :
    s'.tag p = s.tag p :=
  congrArg (Option.map _) same

/-! ### Work -/

/-- Nothing is done to the installation, except perhaps to the instrument at one placement, which
stays there and with its owner. -/
inductive Worked (p : Placement) (s : Installation σ) : Installation σ → Prop where
  | missed : Worked p s s
  | done {o : Occupant σ} {i : Instrument σ} (there : s.occupant? p = some o)
      (held : i.released = o.instrument.released) :
      Worked p s (s.place p (some { o with instrument := i }))

namespace Worked

lemma of_withInstrument {α : Type} {f : Instrument σ → α × Instrument σ}
    (kept : ∀ i, (f i).2.released = i.released) (p : Placement) (s : Installation σ) :
    Worked p s (s.withInstrument p f).2 := by
  rw [withInstrument]
  split
  · exact .missed
  · next there => exact .done there (kept _)

lemma of_withHeld {α : Type} {f : Instrument σ → Except Failure α × Instrument σ}
    (kept : ∀ i, (f i).2.released = i.released) (h : Hold) (s : Installation σ) :
    Worked h.placement s (s.withHeld h f).2 := by
  rw [withHeld]
  split
  · exact .missed
  · next there =>
    split
    · exact .done there (Instrument.released_throughFrontEnd kept _)
    · exact .missed

lemma tag {s' : Installation σ} (worked : Worked p s s') : s'.tag p = s.tag p := by
  cases worked with
  | missed => rfl
  | done there held =>
    rw [Installation.tag, Installation.tag, occupant?_place_self, there, Option.map_some,
      Option.map_some, held]

lemma nextSerial {s' : Installation σ} (worked : Worked p s s') : s'.nextSerial = s.nextSerial := by
  cases worked with
  | missed => rfl
  | done => exact nextSerial_place p _ s

lemma elsewhere {s' : Installation σ} (worked : Worked p s s') (other : q ≠ p) :
    s'.occupant? q = s.occupant? q := by
  cases worked with
  | missed => rfl
  | done => exact occupant?_place_of_ne other _ s

end Worked

/-! ### Holds -/

/-- Every instrument in its place has a number that was given out, and belongs to its owner. -/
def Tidy (s : Installation σ) : Prop := ∀ p, ∀ t ∈ s.tag p, t.1 < s.nextSerial ∧ t.2 = false

lemma Tidy.empty : Tidy ({} : Installation σ) := by
  intro p t there
  cases (tag_empty p).symm.trans there

/-- What is held is in its place, and its owner's. -/
def Reaches (h : Hold) (s : Installation σ) : Prop := s.tag h.placement = some (h.serial, false)

/-- What is held has had its time. -/
def Gone (h : Hold) (s : Installation σ) : Prop :=
  h.serial < s.nextSerial ∧ ∀ t ∈ s.tag h.placement, t.1 ≠ h.serial

lemma hold_eq_ok_iff {h : Hold} :
    s.hold p = .ok h ↔ h.placement = p ∧ ∃ b, s.tag p = some (h.serial, b) := by
  rw [hold, tag]
  cases s.occupant? p with
  | none => exact ⟨nofun, nofun⟩
  | some o =>
    constructor
    · rintro ⟨⟩
      exact ⟨rfl, _, rfl⟩
    · obtain ⟨placement, serial⟩ := h
      rintro ⟨rfl, b, there⟩
      cases there
      rfl

lemma Reaches.of_hold {h : Hold} (tidy : Tidy s) (held : s.hold p = .ok h) :
    h.placement = p ∧ Reaches h s := by
  obtain ⟨rfl, b, there⟩ := hold_eq_ok_iff.mp held
  obtain rfl : b = false := (tidy _ _ there).2
  exact ⟨rfl, there⟩

/-- Whatever is asked through the front end fails, and is not done. -/
def Severed (h : Hold) (s : Installation σ) : Prop :=
  ∀ (α : Type) (f : Instrument σ → Except Failure α × Instrument σ),
    s.withHeld h f = (.error .notRunning, s)

/-- Whatever is asked through the front end is done on the instrument at its placement. -/
def Connected (h : Hold) (s : Installation σ) : Prop :=
  ∃ o, s.occupant? h.placement = some o ∧
    ∀ (α : Type) (f : Instrument σ → Except Failure α × Instrument σ), s.withHeld h f =
      ((f o.instrument).1, s.place h.placement (some { o with instrument := (f o.instrument).2 }))

lemma Gone.severed {h : Hold} (gone : Gone h s) : Severed h s := by
  intro α f
  rw [withHeld]
  split
  · rfl
  · next o there =>
    have numbered : s.tag h.placement = some (o.serial, o.instrument.released) := congrArg _ there
    exact if_neg (gone.2 _ numbered)

lemma Reaches.connected {h : Hold} (reaches : Reaches h s) : Connected h s := by
  obtain ⟨o, there, numbered⟩ := Option.map_eq_some_iff.mp reaches
  obtain ⟨same, held⟩ := Prod.mk.inj numbered
  refine ⟨o, there, fun α f => ?_⟩
  simp only [withHeld, there]
  rw [if_pos same, Instrument.throughFrontEnd, held, if_neg Bool.false_ne_true]

/-! ### Starts and stops -/

variable [Transport σ] {opening : Instrument.Opening σ}

/-- The ways in which a start can end: the placement is in use, no instrument was opened or it would
not start, or there is a new one. -/
inductive Outcome (p : Placement) (opening : Instrument.Opening σ) (s : Installation σ) :
    Except Failure Unit → Installation σ → Prop where
  | refused (used : p ∈ s.running) : Outcome p opening s (.error (.alreadyStarted p)) s
  | failed {cause : Failure} {log : Array Event} (free : p ∉ s.running)
      (h : (opening.result >>= fun i => i.start.1) = .error cause) :
      Outcome p opening s (.error cause) { s with log := log }
  | started {i : Instrument σ} {log : Array Event} (free : p ∉ s.running)
      (h : (opening.result >>= fun i => i.start.1) = .ok ())
      (held : (∀ i, opening.result = .ok i → i.released = false) → i.released = false) :
      Outcome p opening s (.ok ())
        { s.place p (some ⟨s.nextSerial, i⟩) with nextSerial := s.nextSerial + 1, log := log }

/-- A placement in use is refused before the factory is asked for anything. -/
lemma start_of_mem_running {m : Type → Type} [Monad m] (used : p ∈ s.running)
    (factory : m (Instrument.Opening σ)) :
    s.start p factory = pure (.error (.alreadyStarted p), s) := by
  obtain ⟨o, there⟩ := Option.isSome_iff_exists.mp (mem_running.mp used)
  rw [start, there]

/-- At a free placement the factory is asked once, and the rest depends on what it opens. -/
lemma start_of_not_mem_running {m : Type → Type} [Monad m] (free : p ∉ s.running)
    (factory : m (Instrument.Opening σ)) :
    s.start p factory = factory >>= fun opening => pure (Id.run (s.start p (pure opening))) := by
  simp only [start, occupant?_of_not_mem_running free, pure_bind]
  refine congrArg (factory >>= ·) (funext fun opening => ?_)
  obtain ⟨cause | i, log⟩ := opening
  · rfl
  · dsimp only
    generalize i.start = result
    obtain ⟨cause | ⟨⟩, i'⟩ := result
    · rfl
    · rfl

lemma Outcome.of_start (p : Placement) (opening : Instrument.Opening σ) (s : Installation σ) :
    Outcome p opening s (Id.run (s.start p (pure opening))).1
      (Id.run (s.start p (pure opening))).2 := by
  by_cases used : p ∈ s.running
  · rw [start_of_mem_running used]
    exact .refused used
  have free := occupant?_of_not_mem_running used
  obtain ⟨cause | i, log⟩ := opening
  · simp only [start, free, pure_bind]
    exact .failed used rfl
  · have held : i.start.2.released = i.released := Instrument.released_carryOut .start i
    rcases launched : i.start with ⟨cause | ⟨⟩, i'⟩
    · simp only [start, free, pure_bind, launched]
      exact .failed used (congrArg Prod.fst launched)
    · simp only [start, free, pure_bind, launched, collect, place_with, nextSerial_place]
      rw [launched] at held
      refine .started used (congrArg Prod.fst launched) fun owned => ?_
      exact held.trans (owned i rfl)

lemma Outcome.elsewhere {answer : Except Failure Unit} {s' : Installation σ}
    (outcome : Outcome p opening s answer s') (other : q ≠ p) :
    s'.occupant? q = s.occupant? q := by
  cases outcome with
  | refused => rfl
  | failed => exact occupant?_with q _ _ s
  | started => rw [occupant?_with, occupant?_place_of_ne other]

lemma Outcome.nextSerial_le {answer : Except Failure Unit} {s' : Installation σ}
    (outcome : Outcome p opening s answer s') : s.nextSerial ≤ s'.nextSerial := by
  cases outcome with
  | refused | failed => exact le_rfl
  | started => exact Nat.le_succ _

/-- A stop takes away what there is, also if it fails. -/
lemma stop_of_mem_running (used : p ∈ s.running) :
    ∃ log, (s.stop p).2 = { s.place p none with log := log } := by
  obtain ⟨o, there⟩ := Option.isSome_iff_exists.mp (mem_running.mp used)
  simp only [stop, there, vacate, occupant?_place_self, place_place]
  exact ⟨_, rfl⟩

lemma stop_of_not_mem_running (free : p ∉ s.running) : s.stop p = (.error .notRunning, s) := by
  rw [stop, occupant?_of_not_mem_running free]

lemma stop_elsewhere (other : q ≠ p) (s : Installation σ) :
    (s.stop p).2.occupant? q = s.occupant? q := by
  by_cases used : p ∈ s.running
  · obtain ⟨log, left⟩ := stop_of_mem_running used
    rw [left, occupant?_with, occupant?_place_of_ne other]
  · rw [stop_of_not_mem_running used]

lemma nextSerial_stop (p : Placement) (s : Installation σ) :
    (s.stop p).2.nextSerial = s.nextSerial := by
  by_cases used : p ∈ s.running
  · obtain ⟨log, left⟩ := stop_of_mem_running used
    rw [left]
    exact nextSerial_place p none s
  · rw [stop_of_not_mem_running used]

end Installation

end InertialSensor
