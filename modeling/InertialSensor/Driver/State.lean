import InertialSensor.Chip.Rate
import InertialSensor.Chip.Scale
import InertialSensor.Clock
import InertialSensor.Driver.Event
import InertialSensor.Integrity.Watch
import InertialSensor.Signal.RepeatGuard
import InertialSensor.Signal.Sample
import InertialSensor.Signal.Stream

/-!
# The driver's state

`Driver σ` is everything the driver knows, together with the state `σ` of the bus to the sensor
and the clock. A `Routine` changes it and answers with a value or a failure; what was changed before
a failure stays changed.
-/

namespace InertialSensor

/-- What the driver is asked to do. -/
structure Configuration where
  /-- The mounting of the board on the body. -/
  mounting : Mounting := .none
  /-- The accelerometer's full scale, in multiples of gravity. -/
  rangeG : Nat := 8
  /-- The output rate in hertz. -/
  sampleRate : Nat := 1000
  /-- The cutoff of the chip's own filter in hertz. -/
  onChipCutoff : Nat := 42
  /-- The cutoffs of the streams' filters in hertz. -/
  cutoffs : PerChannel Float32 := ⟨30, 30⟩
  /-- The capacity of each backlog. -/
  queueDepth : Nat := 2
  /-- Microseconds after which a window of integrated change closes: at most 280 a second. -/
  windowInterval : UInt64 := 1000000 / 280
  /-- Whether one register is verified in every cycle. -/
  verifies : Bool := true

/-- The settings that the chip was last given. -/
structure InForce where
  rate : OutputRate
  onChipFilter : OnChipFilter
  fullScale : FullScale
  /-- The scales of the two sensors, in units per count. -/
  perCount : PerChannel Float32

/-- The settings that a configuration asks for. -/
def Configuration.settings (c : Configuration) : InForce where
  rate := .forHertz c.sampleRate
  onChipFilter := .forCutoff c.onChipCutoff
  fullScale := .covering c.rangeG
  perCount := ⟨(FullScale.covering c.rangeG).scale, gyroScale⟩

/-- Counts of what happened. -/
structure Stats where
  /-- Cycles that went to the bus. -/
  cycles : Nat := 0
  reads : PerChannel Nat := ⟨0, 0⟩
  badTransfers : Nat := 0
  badRegisters : Nat := 0
  goodTransfers : Nat := 0
  resetRetries : Nat := 0
  duplicates : Nat := 0

/-- The number of errors that reports carry. -/
def Stats.errors (s : Stats) : Nat := s.badTransfers + s.badRegisters

/-- A published report. -/
structure Publication where
  channel : Channel
  report : Report

/-- The state of the driver, of the bus and of the clock. -/
structure Driver (σ : Type) where
  bus : σ
  clock : Clock
  config : Configuration
  inForce : InForce
  watch : Integrity.Watch := {}
  stats : Stats := {}
  guard : RepeatGuard := {}
  streams : PerChannel Stream
  /-- Microseconds between cycles, zero when measuring on demand. -/
  pollInterval : UInt64 := 0
  /-- A factory test is running; measuring is suspended. -/
  inFactoryTest : Bool := false
  /-- Finished windows are not published. -/
  muted : Bool := false
  /-- The last die temperature in degrees Celsius. -/
  temperature : Float32 := 0
  /-- What was published and not yet picked up, in order. -/
  published : Array Publication := #[]
  /-- What was noted down, in order. -/
  log : Array Event := #[]
  /-- Whether events are written out as they happen. -/
  logging : Bool := false

/-- The rate for which filters are designed at first, in hertz. -/
def defaultPollRate : Nat := 1000

namespace Driver

variable {σ : Type}

/-- A driver that has not touched its sensor yet. -/
def new (bus : σ) (clock : Clock) (config : Configuration) : Driver σ :=
  let stream (cutoff : Float32) (coning : Bool) : Stream :=
    .new (Binary32.ofNat defaultPollRate) cutoff config.windowInterval coning config.queueDepth
  { bus := bus
    clock := clock
    config := config
    inForce := config.settings
    streams := ⟨stream config.cutoffs.accel false, stream config.cutoffs.gyro true⟩ }

/-- The present time. -/
def now (d : Driver σ) : UInt64 := d.clock.now

/-- The scale of a stream. -/
def scaling (d : Driver σ) : Channel → Scaling
  | .accel => ⟨d.inForce.perCount.accel, d.inForce.fullScale.range⟩
  | .gyro => ⟨d.inForce.perCount.gyro, gyroRange⟩

end Driver

/-- A change of the driver's state that answers with a value or a failure. -/
def Routine (σ α : Type) := Driver σ → Except Failure α × Driver σ

namespace Routine

variable {σ α β : Type}

instance : Monad (Routine σ) where
  pure a := fun d => (.ok a, d)
  bind x f := fun d =>
    match x d with
    | (.ok a, d) => f a d
    | (.error e, d) => (.error e, d)

/-- Looks at the state. -/
def look : Routine σ (Driver σ) := fun d => (.ok d, d)

/-- Changes the state. -/
def update (f : Driver σ → Driver σ) : Routine σ Unit := fun d => (.ok (), f d)

/-- Ends with a failure. -/
def fail (e : Failure) : Routine σ α := fun d => (.error e, d)

/-- Runs a routine and answers with its result, be it a failure. -/
def attempt (x : Routine σ α) : Routine σ (Except Failure α) := fun d =>
  let (result, d) := x d
  (.ok result, d)

/-- Notes an event down. -/
def note (e : Event) : Routine σ Unit := update fun d => { d with log := d.log.push e }

/-- Lets time go by. -/
def delay (us : UInt64) : Routine σ Unit := update fun d => { d with clock := d.clock.advance us }

/-- Changes the counts. -/
def tally (f : Stats → Stats) : Routine σ Unit := update fun d => { d with stats := f d.stats }

/-- Changes one stream. -/
def updateStream (c : Channel) (f : Stream → Stream) : Routine σ Unit :=
  update fun d => { d with streams := d.streams.modify c f }

/-! ### Composition -/

@[simp] theorem pure_apply (a : α) (d : Driver σ) : (pure a : Routine σ α) d = (.ok a, d) := rfl

@[simp] theorem look_apply (d : Driver σ) : look d = (.ok d, d) := rfl

@[simp] theorem update_apply (f : Driver σ → Driver σ) (d : Driver σ) :
    update f d = (.ok (), f d) := rfl

@[simp] theorem fail_apply (e : Failure) (d : Driver σ) :
    (fail e : Routine σ α) d = (.error e, d) := rfl

@[simp] theorem attempt_apply (x : Routine σ α) (d : Driver σ) :
    attempt x d = (.ok (x d).1, (x d).2) := rfl

theorem bind_apply (x : Routine σ α) (f : α → Routine σ β) (d : Driver σ) :
    (x >>= f) d = match x d with
      | (.ok a, d) => f a d
      | (.error e, d) => (.error e, d) := rfl

theorem bind_of_ok {x : Routine σ α} {d d' : Driver σ} {a : α} (f : α → Routine σ β)
    (h : x d = (.ok a, d')) : (x >>= f) d = f a d' := by
  rw [bind_apply, h]

theorem bind_of_error {x : Routine σ α} {d d' : Driver σ} {e : Failure} (f : α → Routine σ β)
    (h : x d = (.error e, d')) : (x >>= f) d = (.error e, d') := by
  rw [bind_apply, h]

/-- A composition succeeds exactly if both parts do. -/
theorem bind_eq_ok_iff {x : Routine σ α} {f : α → Routine σ β} {d d' : Driver σ} {b : β} :
    (x >>= f) d = (.ok b, d') ↔
      ∃ a between, x d = (.ok a, between) ∧ f a between = (.ok b, d') := by
  rw [bind_apply]
  generalize x d = r
  obtain ⟨_ | a, between⟩ := r
  · simp
  · exact ⟨fun h => ⟨a, between, rfl, h⟩, by rintro ⟨_, _, h, h'⟩; cases h; exact h'⟩

instance : LawfulMonad (Routine σ) :=
  LawfulMonad.mk' (Routine σ)
    (fun x => by
      funext d
      simp only [Functor.map]
      generalize x d = r
      obtain ⟨_ | _, _⟩ := r <;> rfl)
    (fun _ _ => rfl)
    (fun x f g => by
      funext d
      simp only [bind_apply]
      generalize x d = r
      obtain ⟨_ | _, _⟩ := r <;> rfl)

end Routine

end InertialSensor
