import Mathlib
import InertialSensor.Integrity.Watch

/-!
# The checked registers by their places

The shadow addresses registers, while everything that goes round the checked registers counts
places. `checked_injective` and `checkedIndex?_checked` go from one to the other, and the shadow is
described place by place.
-/

namespace InertialSensor

namespace Register

@[simp] lemma checkedIndex?_checked : ∀ i : Fin 8, checkedIndex? (checked.get i) = some i := by
  decide +kernel

lemma checked_injective {i j : Fin 8} (h : checked.get i = checked.get j) : i = j := by
  have same := checkedIndex?_checked i
  rw [h, checkedIndex?_checked] at same
  exact (Option.some.inj same).symm

@[simp] lemma checked_eq_power_iff : ∀ {i : Fin 8}, checked.get i = power ↔ i = 0 := by decide

end Register

namespace Integrity

@[simp] lemma Shadow.expected?_checked (i : Fin 8) (s : Shadow) :
    s.expected? (Register.checked.get i) = some (s.values.get i) := by
  rw [expected?, Register.checkedIndex?_checked]
  rfl

@[simp] lemma Shadow.expected?_power (s : Shadow) :
    s.expected? Register.power = some (s.values.get 0) :=
  s.expected?_checked 0

/-- Keeping a value changes the shadow at most at the place of the register written. -/
lemma Shadow.values_record (address value : UInt8) (s : Shadow) (i : Fin 8) :
    (s.record address value).values.get i =
      if Register.checked.get i = address then value else s.values.get i := by
  have kept := Shadow.expected?_checked i (s.record address value)
  split
  · next same =>
    subst same
    have checked : (Register.checkedIndex? (Register.checked.get i)).isSome := by simp
    rw [expected?_record_self value s checked] at kept
    exact (Option.some.inj kept).symm
  · next other =>
    rw [expected?_record_of_ne value s other, expected?_checked] at kept
    exact (Option.some.inj kept).symm

/-- Keeping a value for the register at a place sets it there. -/
lemma Watch.values_record_checked (i : Fin 8) (value : UInt8) (w : Watch) :
    (w.record (Register.checked.get i) value).shadow.values =
      w.shadow.values.setIfInBounds i value := by
  refine Vector.ext fun j inside => ?_
  simp [record, Shadow.record, Vector.getElem_set, Vector.getElem_setIfInBounds]

/-- Keeping a value makes no progress in a recovery. -/
lemma Watch.record_eq (address value : UInt8) (w : Watch) :
    w.record address value =
      { w with shadow.values := (w.record address value).shadow.values } := by
  unfold record Shadow.record
  split <;> rfl

/-! ### Comparing a value with the shadow -/

variable {found : UInt8} {w : Watch}

lemma Watch.check_of_eq (now : UInt64) (right : found = w.shadow.value) :
    w.check found now = (none, { w with shadow := w.shadow.advance }) := if_pos right

lemma Watch.check_of_drastic (now : UInt64) (wrong : found ≠ w.shadow.value)
    (drastic : w.settling = 0 ∨ w.shadow.cursor = 0) :
    w.check found now =
      (some (.reset (now + resetHold)),
        { shadow := w.shadow.rewind
          settling := settleCount
          holdUntil := now + resetHold
          wakePending := true }) := by
  have place : w.settling = 0 ∨ w.shadow.cursor.val = 0 := drastic.imp_right fun h => by rw [h]; rfl
  rw [check, if_neg wrong, if_pos place]

lemma Watch.check_of_gentle (now : UInt64) (wrong : found ≠ w.shadow.value)
    (recovering : w.settling ≠ 0) (gentle : w.shadow.cursor ≠ 0) :
    w.check found now =
      (some (.repair w.shadow.address w.shadow.value (now + repairHold)),
        { w with
          shadow := w.shadow.advance
          settling := settleCount
          holdUntil := now + repairHold }) := by
  have place : w.shadow.cursor.val ≠ 0 := fun h => gentle (Fin.ext h)
  rw [check, if_neg wrong, if_neg (not_or.mpr ⟨recovering, place⟩)]

end Integrity

end InertialSensor
