import InertialSensor.Polling.Instrument

/-!
# Requests for a mode at the same time

A request for a polling mode is not one action. The driver, and the place where the sampler is kept,
are each entered for a moment only, and between two such sections other requests and cycles of
samplers come in. Here a request is the row of its sections, a sampler is a thread whose cycles are
single actions, and a run is any order of all these.

A sampler that was told to stop has ended when the teller goes on. One whose cycle found an interval
of zero runs no more cycles, but looks as if it ran until it has finished.

Creating a sampler and putting it in its place are two sections. A new one waits for a millisecond
before its first cycle, but nothing makes sure that it is put in its place meanwhile. So cycles may
come before that, and a sampler keeps apart what they found.
-/

namespace InertialSensor

/-- A sampler. -/
structure Thread where
  /-- It has been put in its place. -/
  stored : Bool := false
  /-- The intervals that its cycles found before it was put there, the last one first. -/
  early : List UInt64 := []
  /-- The intervals that its cycles have found there, the last one first. -/
  readings : List UInt64 := []
  ended : Bool := false
deriving DecidableEq

namespace Thread

/-- It has found an interval of zero. -/
def FoundZero (t : Thread) : Prop := 0 ∈ t.early ∨ 0 ∈ t.readings

instance (t : Thread) : Decidable t.FoundZero := inferInstanceAs (Decidable (_ ∨ _))

/-- It goes on running cycles. -/
def IsActive (t : Thread) : Prop := t.ended = false ∧ ¬t.FoundZero

instance (t : Thread) : Decidable t.IsActive := inferInstanceAs (Decidable (_ ∧ _))

/-- A cycle of it has found an interval. -/
def find (us : UInt64) (t : Thread) : Thread :=
  if t.stored then { t with readings := us :: t.readings } else { t with early := us :: t.early }

/-- It ends, if it has found an interval of zero. -/
def finish (t : Thread) : Thread := if t.FoundZero then { t with ended := true } else t

end Thread

/-- Where a request stands: the section that it enters next, with what it knows from earlier ones,
or how it has come back. A sampler is taken out of its place both for the manual mode and to start a
new one. -/
inductive Stage where
  /-- Set the interval and the filters, and see whether the mode was manual. -/
  | retune (us : Nat)
  /-- See whether a sampler runs. -/
  | inspect (wasManual : Bool)
  /-- Take the sampler out of its place. -/
  | take (manual : Bool)
  /-- Stop the sampler that was taken, and wait for its end. -/
  | join (manual : Bool) (taken : Option Nat)
  /-- Forget what the sampler that was taken has left. -/
  | clean (manual : Bool) (taken : Option Nat)
  /-- Forget earlier samples. -/
  | forget
  /-- Create a sampler. -/
  | spawn
  /-- Put the new sampler in the place; one that is there is stopped. -/
  | store (spawned : Nat)
  /-- Set the interval to zero. -/
  | demand
  | returned
  /-- A transfer failed. -/
  | failed
deriving DecidableEq

/-- Where a request for a mode begins; one that is refused has come back at once. -/
def Polling.stage (p : Polling) : Stage :=
  match p.interval with
  | .error _ => .returned
  | .ok 0 => .take true
  | .ok us => .retune us

/-- An instrument with all its samplers and all requests for a mode. -/
structure Traffic (σ : Type) where
  driver : Driver σ
  /-- The place of the sampler. -/
  place : Option Nat
  threads : List Thread
  callers : List Stage

namespace Traffic

variable {σ : Type}

/-- Requests for modes that come to an instrument. -/
def of (i : Instrument σ) (requests : List Polling) : Traffic σ where
  driver := i.driver
  place := if i.sampling then some 0 else none
  threads := if i.sampling then [{ stored := true }] else []
  callers := requests.map Polling.stage

/-- The sampler in the place seems to run. -/
def isRunning (t : Traffic σ) : Bool :=
  (t.place.bind fun n => t.threads[n]?).any fun thread => !thread.ended

/-- A sampler has not ended. -/
def IsLive (n : Nat) (t : Traffic σ) : Prop := ∃ thread ∈ t.threads[n]?, thread.ended = false

/-- A sampler goes on running cycles. -/
def IsActive (n : Nat) (t : Traffic σ) : Prop := ∃ thread ∈ t.threads[n]?, thread.IsActive

/-- A sampler found an interval of zero before it was put in its place. -/
def IsSpoilt (n : Nat) (t : Traffic σ) : Prop := ∃ thread ∈ t.threads[n]?, 0 ∈ thread.early

instance (n : Nat) (t : Traffic σ) : Decidable (t.IsSpoilt n) :=
  inferInstanceAs (Decidable (∃ thread ∈ t.threads[n]?, 0 ∈ thread.early))

def note (e : Event) (t : Traffic σ) : Traffic σ :=
  { t with driver := { t.driver with log := t.driver.log.push e } }

/-- Stops a sampler and waits for its end, if there is one to stop. -/
def stop (target : Option Nat) (t : Traffic σ) : Traffic σ :=
  match target with
  | none => t
  | some n =>
    { t with threads := t.threads.modify n fun thread => { thread with ended := true } }.note
      .samplingStopped

/-- Creates a sampler. -/
def create (t : Traffic σ) : Traffic σ :=
  { t with threads := t.threads ++ [({} : Thread)] }.note .samplingStarted

/-- Puts a sampler in the place. -/
def put (n : Nat) (t : Traffic σ) : Traffic σ :=
  { t with
    place := some n
    threads := t.threads.modify n fun thread => { thread with stored := true } }

variable [Transport σ]

/-- Forgets the last sample and all unread reports. -/
def forgetHistory (t : Traffic σ) : Traffic σ :=
  { t with driver := (Driver.forgetHistory t.driver).2 }

/-- A request enters a section; says where it stands after that. -/
def enter (t : Traffic σ) : Stage → Stage × Traffic σ
  | .retune us =>
    let wasManual := t.driver.pollInterval = 0
    match Driver.setPollInterval us.toUInt64 t.driver with
    | (.ok (), d) => (.inspect wasManual, { t with driver := d })
    | (.error _, d) => (.failed, { t with driver := d })
  | .inspect wasManual => (if wasManual || !t.isRunning then .take false else .returned, t)
  | .take manual => (.join manual t.place, { t with place := none })
  | .join manual taken => (.clean manual taken, t.stop taken)
  | .clean manual taken =>
    (if manual then .demand else .forget, if taken.isSome then t.forgetHistory else t)
  | .forget => (.spawn, t.forgetHistory)
  | .spawn => (.store t.threads.length, t.create)
  | .store n => (.returned, (t.stop t.place).put n)
  | .demand => (.returned, { t with driver := (Driver.setPollInterval 0 t.driver).2 })
  | .returned => (.returned, t)
  | .failed => (.failed, t)

/-- A single action. -/
inductive Move where
  /-- A request enters its next section. -/
  | call (k : Nat)
  /-- A sampler runs a cycle and finds out about the interval. -/
  | cycle (n : Nat)
  /-- A sampler that has found an interval of zero finishes. -/
  | finish (n : Nat)

/-- The next cycle of a sampler, if it goes on running cycles. -/
def cycle (n : Nat) (t : Traffic σ) : Traffic σ :=
  match t.threads[n]? with
  | none => t
  | some thread =>
    if thread.IsActive then
      let driver := (Instrument.tick { driver := t.driver }).driver
      { t with
        driver := driver
        threads := t.threads.modify n (·.find driver.pollInterval) }
    else t

/-- Carries out a single action; one that is not due does nothing. -/
def move (t : Traffic σ) : Move → Traffic σ
  | .call k =>
    match t.callers[k]? with
    | none => t
    | some stage =>
      let (stage, t) := t.enter stage
      { t with callers := t.callers.set k stage }
  | .cycle n => t.cycle n
  | .finish n => { t with threads := t.threads.modify n (·.finish) }

/-- Carries out actions in the given order. -/
def run (moves : List Move) (t : Traffic σ) : Traffic σ := moves.foldl move t

end Traffic

end InertialSensor
