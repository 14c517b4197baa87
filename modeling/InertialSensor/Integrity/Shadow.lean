import InertialSensor.Chip.Register

/-!
# What the registers should hold

The shadow keeps, for each checked register, the value last written to it on purpose, and a cursor
to the register that is verified next. Other registers are not kept. `expected?_record_self` and
`expected?_record_of_ne` say what is kept.
-/

namespace InertialSensor.Integrity

/-- The values the checked registers should hold, and the place of the next one to verify. -/
structure Shadow where
  values : Vector UInt8 8
  cursor : Fin 8
deriving DecidableEq

namespace Shadow

/-- Nothing was written yet. -/
def blank : Shadow := ⟨Vector.replicate 8 0, 0⟩

/-- Keeps a value for a checked register. -/
def record (address value : UInt8) (s : Shadow) : Shadow :=
  match Register.checkedIndex? address with
  | some i => { s with values := s.values.set i value }
  | none => s

/-- The value a checked register should hold. -/
def expected? (address : UInt8) (s : Shadow) : Option UInt8 :=
  (Register.checkedIndex? address).map fun i => s.values[i]

theorem expected?_record_self {address : UInt8} (value : UInt8) (s : Shadow)
    (h : (Register.checkedIndex? address).isSome) :
    (s.record address value).expected? address = some value := by
  obtain ⟨i, h⟩ := Option.isSome_iff_exists.1 h
  simp [record, expected?, h]

theorem expected?_record_of_ne {address other : UInt8} (value : UInt8) (s : Shadow)
    (h : other ≠ address) : (s.record address value).expected? other = s.expected? other := by
  unfold record expected?
  split
  · next i hi =>
    cases hj : Register.checkedIndex? other with
    | none => rfl
    | some j =>
      have apart : (i : Nat) ≠ j := by
        intro same
        have same : i = j := Fin.ext same
        subst same
        exact h ((Register.address_of_checkedIndex? hj).symm.trans
          (Register.address_of_checkedIndex? hi))
      simp [Vector.getElem_set_ne, apart]
  · rfl

/-- The register verified next. -/
def address (s : Shadow) : UInt8 := Register.checked[s.cursor]

/-- The value that the register verified next should hold. -/
def value (s : Shadow) : UInt8 := s.values[s.cursor]

/-- On to the next register, from the last one to the first. -/
def advance (s : Shadow) : Shadow := { s with cursor := s.cursor + 1 }

/-- Back to the first register. -/
def rewind (s : Shadow) : Shadow := { s with cursor := 0 }

/-- All checked registers with the values they should hold. -/
def entries (s : Shadow) : List (UInt8 × UInt8) :=
  Register.checked.toList.zip s.values.toList

end Shadow

end InertialSensor.Integrity
