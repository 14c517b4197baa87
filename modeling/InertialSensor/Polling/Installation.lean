import InertialSensor.Polling.Instrument

/-!
# Installations

An installation has room for one instrument at each placement. An instrument that is stopped
leaves its place for good: front ends of it stay without an instrument even after another one has
been started there.
-/

namespace InertialSensor

/-- An instrument in its place, with a number that no other instrument ever gets. -/
structure Occupant (σ : Type) where
  serial : Nat
  instrument : Instrument σ

/-- At most one instrument at each placement. -/
structure Installation (σ : Type) where
  internal : Option (Occupant σ) := none
  external : Option (Occupant σ) := none
  /-- The number of the next instrument. -/
  nextSerial : Nat := 0
  /-- What was noted down by instruments up to their start, and by those that are gone. -/
  log : Array Event := #[]

/-- A front end's hold on an instrument: its place and its number. -/
structure Hold where
  placement : Placement
  serial : Nat
deriving DecidableEq

namespace Installation

variable {σ : Type} [Transport σ] {α : Type}

/-- What is at a placement. -/
def occupant? (p : Placement) (s : Installation σ) : Option (Occupant σ) :=
  match p with
  | .internal => s.internal
  | .external => s.external

/-- Puts something, or nothing, at a placement. -/
def place (p : Placement) (o : Option (Occupant σ)) (s : Installation σ) : Installation σ :=
  match p with
  | .internal => { s with internal := o }
  | .external => { s with external := o }

/-- The instrument at a placement. -/
def get? (p : Placement) (s : Installation σ) : Option (Instrument σ) :=
  (s.occupant? p).map (·.instrument)

/-- The placements in use, internal before external. -/
def running (s : Installation σ) : List Placement :=
  [.internal, .external].filter fun p => (s.occupant? p).isSome

/-- Moves what an instrument noted down to the installation's log. -/
def collect (i : Instrument σ) (s : Installation σ) : Instrument σ × Installation σ :=
  (i.update fun d => { d with log := #[] }, { s with log := s.log ++ i.driver.log })

/-- Opens an instrument, starts it and gives it its place. A placement in use is refused before
anything is opened, and a failure leaves the place free. -/
def start {m : Type → Type} [Monad m] (p : Placement) (factory : m (Instrument.Opening σ))
    (s : Installation σ) : m (Except Failure Unit × Installation σ) :=
  match s.occupant? p with
  | some _ => pure (.error (.alreadyStarted p), s)
  | none => do
    let opening ← factory
    let s := { s with log := s.log ++ opening.log }
    match opening.result with
    | .error cause => pure (.error cause, s)
    | .ok i =>
      match i.start with
      | (.error cause, i) => pure (.error cause, (s.collect i.release).2)
      | (.ok (), i) =>
        let (i, s) := s.collect (i.note (.instrumentStarted p))
        let s := s.place p (some ⟨s.nextSerial, i⟩)
        pure (.ok (), { s with nextSerial := s.nextSerial + 1 })

/-- Lets the instrument at a placement go. -/
def vacate (p : Placement) (s : Installation σ) : Installation σ :=
  match s.occupant? p with
  | none => s
  | some o => ((s.place p none).collect o.instrument.release).2

/-- Stops the instrument at a placement and lets it go. -/
def stop (p : Placement) (s : Installation σ) : Except Failure Unit × Installation σ :=
  match s.occupant? p with
  | none => (.error .notRunning, s)
  | some o =>
    let (result, i) := o.instrument.stop
    let i := if result.isOk then i.note (.instrumentStopped p) else i
    (result, (s.place p (some { o with instrument := i })).vacate p)

/-- Runs something on the instrument at a placement, if there is one. -/
def withInstrument (p : Placement) (f : Instrument σ → α × Instrument σ) (s : Installation σ) :
    Option α × Installation σ :=
  match s.occupant? p with
  | none => (none, s)
  | some o =>
    let (a, i) := f o.instrument
    (some a, s.place p (some { o with instrument := i }))

/-- A hold on the instrument at a placement. -/
def hold (p : Placement) (s : Installation σ) : Except Failure Hold :=
  match s.occupant? p with
  | none => .error .notRunning
  | some o => .ok ⟨p, o.serial⟩

/-- Runs something on the instrument that is held, which fails if that instrument is gone. Histories
are sequential: no call is still blocked, waiting for data, while its instrument is stopped. Such a
call would keep the instrument until it comes back. -/
def withHeld (h : Hold) (f : Instrument σ → Except Failure α × Instrument σ)
    (s : Installation σ) : Except Failure α × Installation σ :=
  match s.occupant? h.placement with
  | none => (.error .notRunning, s)
  | some o =>
    if o.serial = h.serial then
      let (result, i) := o.instrument.throughFrontEnd f
      (result, s.place h.placement (some { o with instrument := i }))
    else (.error .notRunning, s)

end Installation

end InertialSensor
