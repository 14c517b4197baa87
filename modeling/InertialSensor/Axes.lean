/-!
# Triples of axes

A value per axis of a right-handed frame, and a value per output stream.
-/

namespace InertialSensor

/-- One value for each axis. -/
structure Axes (α : Type) where
  x : α
  y : α
  z : α
deriving DecidableEq, Repr

namespace Axes

variable {α β γ : Type}

/-- The same value on every axis. -/
def replicate (a : α) : Axes α := ⟨a, a, a⟩

def map (f : α → β) (v : Axes α) : Axes β := ⟨f v.x, f v.y, f v.z⟩

def zipWith (f : α → β → γ) (v : Axes α) (w : Axes β) : Axes γ := ⟨f v.x w.x, f v.y w.y, f v.z w.z⟩

def toList (v : Axes α) : List α := [v.x, v.y, v.z]

def all (p : α → Bool) (v : Axes α) : Bool := p v.x && p v.y && p v.z

/-- The vector product of two vectors. -/
def cross (v w : Axes Float32) : Axes Float32 :=
  ⟨v.y * w.z - v.z * w.y, v.z * w.x - v.x * w.z, v.x * w.y - v.y * w.x⟩

@[simp] theorem map_replicate (f : α → β) (a : α) : (replicate a).map f = replicate (f a) := rfl

@[simp] theorem toList_map (f : α → β) (v : Axes α) : (v.map f).toList = v.toList.map f := rfl

end Axes

/-- The two output streams of the sensor. -/
inductive Channel where
  | accel
  | gyro
deriving DecidableEq, Repr

/-- One value for each output stream. -/
structure PerChannel (α : Type) where
  accel : α
  gyro : α

namespace PerChannel

variable {α : Type}

def get (p : PerChannel α) : Channel → α
  | .accel => p.accel
  | .gyro => p.gyro

/-- Replaces one stream's value by its image. -/
def modify (p : PerChannel α) (c : Channel) (f : α → α) : PerChannel α :=
  match c with
  | .accel => { p with accel := f p.accel }
  | .gyro => { p with gyro := f p.gyro }

def map {β : Type} (p : PerChannel α) (f : α → β) : PerChannel β := ⟨f p.accel, f p.gyro⟩

@[simp] theorem get_modify_same (p : PerChannel α) (c : Channel) (f : α → α) :
    (p.modify c f).get c = f (p.get c) := by cases c <;> rfl

theorem get_modify_of_ne (p : PerChannel α) {c d : Channel} (f : α → α) (h : d ≠ c) :
    (p.modify c f).get d = p.get d := by
  cases c <;> cases d <;> simp_all [get, modify]

@[simp] theorem get_map {β : Type} (p : PerChannel α) (f : α → β) (c : Channel) :
    (p.map f).get c = f (p.get c) := by cases c <;> rfl

end PerChannel

end InertialSensor
