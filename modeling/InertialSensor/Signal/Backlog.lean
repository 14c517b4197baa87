/-!
# Backlog of unread items

A first-in, first-out store of bounded capacity. An item always goes in: if the backlog is full
the oldest item is dropped and counted. `items` lists the content, oldest first; `items_push` and
`items_take` say what becomes of it.
-/

namespace InertialSensor

/-- Unread items, oldest first. -/
structure Backlog (α : Type) where
  items : List α
  capacity : Nat
  /-- The number of items dropped unread to make room. -/
  overwritten : Nat

namespace Backlog

variable {α : Type}

/-- The largest capacity. -/
def maxCapacity : Nat := 100

/-- An empty backlog; its capacity is brought into the range from one to `maxCapacity`. -/
def empty (capacity : Nat) : Backlog α := ⟨[], max 1 (min capacity maxCapacity), 0⟩

def size (b : Backlog α) : Nat := b.items.length

/-- Adds an item, at the expense of the oldest one if the backlog is full. -/
def push (b : Backlog α) (a : α) : Backlog α :=
  if b.size = b.capacity then
    { b with items := b.items.tail ++ [a], overwritten := b.overwritten + 1 }
  else
    { b with items := b.items ++ [a] }

/-- The oldest item, and the backlog without it. -/
def pop? (b : Backlog α) : Option α × Backlog α := (b.items.head?, { b with items := b.items.tail })

/-- The oldest `count` items, and the backlog without them. -/
def take (b : Backlog α) (count : Nat) : List α × Backlog α :=
  (b.items.take count, { b with items := b.items.drop count })

/-- Discards all items. -/
def clear (b : Backlog α) : Backlog α := { b with items := [] }

/-- Changes the capacity and discards all items; a capacity out of range is refused. -/
def resize? (b : Backlog α) (capacity : Nat) : Option (Backlog α) :=
  if 1 ≤ capacity ∧ capacity ≤ maxCapacity then some { b with items := [], capacity := capacity }
  else none

/-! ### Size and capacity -/

@[simp] theorem capacity_push (b : Backlog α) (a : α) : (b.push a).capacity = b.capacity := by
  unfold push
  split <;> rfl

/-- A backlog that is not over-full stays so. -/
theorem size_push_le {b : Backlog α} (a : α) (room : 1 ≤ b.capacity) (h : b.size ≤ b.capacity) :
    (b.push a).size ≤ b.capacity := by
  unfold push
  split
  · simp only [size] at *
    simp only [List.length_append, List.length_tail, List.length_singleton]
    omega
  · simp only [size] at *
    simp only [List.length_append, List.length_singleton]
    omega

/-- Nothing is lost but the oldest item of a full backlog. -/
theorem items_push (b : Backlog α) (a : α) :
    (b.push a).items = (if b.size = b.capacity then b.items.tail else b.items) ++ [a] := by
  unfold push
  split <;> rfl

/-- Taking splits the content. -/
theorem items_take (b : Backlog α) (count : Nat) :
    (b.take count).1 ++ (b.take count).2.items = b.items :=
  List.take_append_drop count b.items

end Backlog

end InertialSensor
