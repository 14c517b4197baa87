import InertialSensor.Proofs.Driver.Invariant

/-!
# The shadow is faithful

For each checked register the shadow keeps the value that was last written to it on purpose, or
zero if there was none. To say so, the bus is put behind a `Recorder`, which lists the writes that
succeeded. Commands to reset the chip are no settings (`IsSetting`) and do not count.

Checked writes keep their value themselves. All that a cycle writes past the shadow repeats what the
shadow has (`Faithful.repeated`).
-/

namespace InertialSensor

/-! ### Recording writes -/

/-- A transport, and the writes through it that succeeded, the latest first. -/
structure Recorder (σ : Type) where
  inner : σ
  writes : List (UInt8 × UInt8)

instance (address value : UInt8) : Decidable (Driver.IsSetting address value) :=
  inferInstanceAs (Decidable (address = Register.power → value &&& Register.resetBit = 0))

/-- The value last written to a register by a setting, or zero if there was none. -/
def lastSetting (register : UInt8) : List (UInt8 × UInt8) → UInt8
  | [] => 0
  | (address, value) :: earlier =>
    if address = register ∧ Driver.IsSetting address value then value
    else lastSetting register earlier

namespace Recorder

variable {σ : Type} [Transport σ]

instance : Transport (Recorder σ) where
  read address speed buffer r :=
    let (result, inner) := Transport.read address speed buffer r.inner
    (result, { r with inner := inner })
  write address value r :=
    match Transport.write address value r.inner with
    | (.ok (), inner) => (.ok (), ⟨inner, (address, value) :: r.writes⟩)
    | (.error text, inner) => (.error text, ⟨inner, r.writes⟩)
  placement r := Transport.placement r.inner
  deviceId r := Transport.deviceId r.inner

/-- A write is recorded exactly if it succeeds. -/
lemma writes_write (address value : UInt8) (r : Recorder σ) :
    (Transport.write address value r).2.writes =
      match (Transport.write address value r).1 with
      | .ok () => (address, value) :: r.writes
      | .error _ => r.writes := by
  simp only [Transport.write]
  generalize Transport.write address value r.inner = result
  obtain ⟨_ | ⟨⟩, inner⟩ := result <;> rfl

lemma writes_of_ok {address value : UInt8} {r : Recorder σ}
    (h : (Transport.write address value r).1 = .ok ()) :
    (Transport.write address value r).2.writes = (address, value) :: r.writes := by
  simp [writes_write, h]

lemma writes_of_error {address value : UInt8} {r : Recorder σ} {text : String}
    (h : (Transport.write address value r).1 = .error text) :
    (Transport.write address value r).2.writes = r.writes := by
  simp [writes_write, h]

end Recorder

namespace Driver

variable {σ : Type} {d d' : Driver (Recorder σ)}

/-! ### What keeps the shadow faithful -/

/-- The shadow keeps the last setting of each checked register. -/
def Faithful (d : Driver (Recorder σ)) : Prop :=
  ∀ i : Fin 8, d.watch.shadow.values.get i = lastSetting (Register.checked.get i) d.bus.writes

lemma Faithful.of_same (h : Faithful d)
    (values : d'.watch.shadow.values = d.watch.shadow.values)
    (writes : d'.bus.writes = d.bus.writes) : Faithful d' := by
  intro i
  rw [values, writes]
  exact h i

lemma faithful_new (bus : σ) (clock : Clock) (config : Configuration) :
    Faithful (.new ⟨bus, []⟩ clock config) := by
  intro i
  exact Vector.getElem_replicate ..

variable [Transport σ]

/-- Writing once more what the shadow has keeps it faithful, whether the write succeeds or not. -/
lemma Faithful.repeated (h : Faithful d) (i : Fin 8)
    (values : d'.watch.shadow.values = d.watch.shadow.values)
    (bus : d'.bus =
      (Transport.write (Register.checked.get i) (d.watch.shadow.values.get i) d.bus).2) :
    Faithful d' := by
  intro j
  rw [values, bus]
  cases result :
    (Transport.write (Register.checked.get i) (d.watch.shadow.values.get i) d.bus).1 with
  | error text =>
    rw [Recorder.writes_of_error result]
    exact h j
  | ok =>
    rw [Recorder.writes_of_ok result, lastSetting]
    split
    · next same => rw [Register.checked_injective same.1]
    · exact h j

/-- A command to reset the chip is not a setting. -/
lemma Faithful.commanded (h : Faithful d)
    (values : d'.watch.shadow.values = d.watch.shadow.values)
    (bus : d'.bus = (Transport.write Register.power Register.resetBit d.bus).2) :
    Faithful d' := by
  intro i
  rw [values, bus]
  cases result : (Transport.write Register.power Register.resetBit d.bus).1 with
  | error text =>
    rw [Recorder.writes_of_error result]
    exact h i
  | ok =>
    have command : ¬IsSetting Register.power Register.resetBit := by decide
    rw [Recorder.writes_of_ok result, lastSetting, if_neg fun both => command both.2]
    exact h i

lemma faithful_invariant : Invariant (Faithful (σ := σ)) where
  touch {d d'} touch h := by
    cases touch with
    | aside aside => exact h.of_same aside.values (by rw [aside.bus])
    | read => exact h.of_same rfl rfl
    | refused result => exact h.of_same rfl (Recorder.writes_of_error result)
    | reset => exact h.commanded rfl rfl
    | @written address value setting result =>
      intro i
      rw [Recorder.writes_of_ok result, lastSetting]
      simp only [Integrity.Watch.record, Integrity.Shadow.values_record]
      by_cases same : Register.checked.get i = address
      · rw [if_pos same, if_pos ⟨same.symm, setting⟩]
      · rw [if_neg same, if_neg fun both => same both.1.symm]
        exact h i
  clear h := h.of_same rfl rfl
  restoration restored h := by
    cases restored with
    | notDue => exact h
    | failed | done => exact h.repeated 0 rfl rfl
  counting h := h.of_same rfl rfl
  fetching fetched h := by cases fetched with | failed | fetched => exact h.of_same rfl rfl
  verification {d _} verified h := by
    have read : Faithful { d with bus := (Transport.read d.watch.shadow.address .high
        (Vector.replicate 1 0) d.bus).2 } := h.of_same rfl rfl
    cases verified with
    | unread | right => exact h.of_same rfl rfl
    | reset => exact read.commanded rfl rfl
    | repair => exact read.repeated d.watch.shadow.cursor rfl rfl
  digestion digested h := by
    cases digested with | repeated | empty | withheld | accepted => exact h.of_same rfl rfl

/-! ### Runs -/

/-- Cycles leave the values of the shadow as they are, whatever they write. -/
lemma values_measure {τ : Type} [Transport τ] (d : Driver τ) :
    (measure d).2.watch.shadow.values = d.watch.shadow.values := by
  refine (Course.of_measure d).keeps (I := fun d' => d'.watch.shadow.values = d.watch.shadow.values)
    ?_ ?_ ?_ ?_ ?_ rfl
  · intro _ _ _ restored h
    cases restored with | notDue | failed | done => exact h
  · exact fun h => h
  · intro _ _ _ fetched h
    cases fetched with | failed | fetched => exact h
  · intro _ _ verified h
    cases verified with | unread | right | reset | repair => exact h
  · intro _ _ _ _ digested h
    cases digested with | repeated | empty | withheld | accepted => exact h

/-- The shadow is faithful at any time: whatever was done since power-on over whatever bus, it keeps
for each checked register the last setting that the bus reported as successful, or zero. Operations
none of whose writes succeed, and cycles whatever they write, leave the values of the shadow as they
are; and a checked write that fails leaves the watch alone. -/
theorem expected?_eq_lastSetting (bus : σ) (clock : Clock) (config : Configuration)
    (ops : List Operation) :
    let d := (performAll ops (.new (⟨bus, []⟩ : Recorder σ) clock config)).2
    (∀ i : Fin 8, d.watch.shadow.expected? (Register.checked.get i) =
        some (lastSetting (Register.checked.get i) d.bus.writes)) ∧
      (∀ op, (perform op d).2.bus.writes = d.bus.writes →
        (perform op d).2.watch.shadow.values = d.watch.shadow.values) ∧
      (measure d).2.watch.shadow.values = d.watch.shadow.values ∧
      ∀ address value cause, (writeChecked address value d).1 = .error cause →
        (writeChecked address value d).2.watch = d.watch := by
  intro d
  have faithful : Faithful d := faithful_invariant.performAll ops (faithful_new bus clock config)
  refine ⟨fun i => ?_, fun op same => ?_, values_measure d,
    fun address value cause failed => ?_⟩
  · simp [faithful i]
  · refine Vector.ext fun i inside => ?_
    have after := faithful_invariant.perform op faithful ⟨i, inside⟩
    rw [same, ← faithful ⟨i, inside⟩] at after
    exact after
  · cases result : (Transport.write address value d.bus).1 with
    | error text => simp [writeChecked_of_error result]
    | ok =>
      rw [writeChecked_of_ok result] at failed
      cases failed

end Driver

end InertialSensor
