import InertialSensor.Proofs.Signal.Backlogs

/-!
# Backlogs as bounded queues

The life of a backlog is a list of `Request`s. Items leave it in the order in which they came: the
oldest one because it is delivered or overwritten, or all of them because they are discarded. So the
items that left, each with its `Fate`, followed by those that are still queued, are the items that
were ever pushed (`Visit.account` for one request, `account` for a whole life). The reads of a
driver take several items at once, which comes to the same as that many pops (`take_eq_pops`).
-/

namespace InertialSensor.Backlog

variable {α : Type}

/-! ### Requests -/

/-- A request to a backlog. -/
inductive Request (α : Type) where
  | push (a : α)
  | pop
  | clear
  | resize (capacity : Nat)

/-- What a backlog answers a request with. -/
inductive Reply (α : Type) where
  | done
  /-- The oldest item, if there was one. -/
  | popped (a? : Option α)
  | refused

/-- Carries out one request. -/
def carryOut : Request α → Backlog α → Reply α × Backlog α
  | .push a, b => (.done, b.push a)
  | .pop, b => (.popped b.pop?.1, b.pop?.2)
  | .clear, b => (.done, b.clear)
  | .resize capacity, b =>
    match b.resize? capacity with
    | some b => (.done, b)
    | none => (.refused, b)

/-- Carries out a sequence of requests. -/
def carryOutAll : List (Request α) → Backlog α → Backlog α
  | [], b => b
  | request :: requests, b => carryOutAll requests (carryOut request b).2

/-- A visit to a backlog: a request, and the backlog that it finds. -/
structure Visit (α : Type) where
  request : Request α
  before : Backlog α

/-- The visits in which a sequence of requests is carried out. -/
def visits : List (Request α) → Backlog α → List (Visit α)
  | [], _ => []
  | request :: requests, b => ⟨request, b⟩ :: visits requests (carryOut request b).2

/-- The ways in which an item can leave a backlog. -/
inductive Fate where
  | delivered
  /-- Dropped to make room for a new item. -/
  | overwritten
  /-- Dropped together with all others. -/
  | discarded
deriving DecidableEq

namespace Visit

def reply (v : Visit α) : Reply α := (carryOut v.request v.before).1

/-- The backlog after the visit. -/
def after (v : Visit α) : Backlog α := (carryOut v.request v.before).2

/-- The item pushed in the visit. -/
def pushed? (v : Visit α) : Option α :=
  match v.request with
  | .push a => some a
  | _ => none

/-- The item that the visit answers with. -/
def delivered? (v : Visit α) : Option α :=
  match v.reply with
  | .popped a? => a?
  | _ => none

/-- The items that leave the backlog in the visit, the oldest first: of a full backlog the oldest
one when an item is pushed, the one that is delivered, or all when the backlog is cleared or
resized. -/
def departures (v : Visit α) : List (α × Fate) :=
  match v.request, v.reply with
  | .push _, _ =>
    if v.before.size = v.before.capacity then v.before.items.head?.toList.map (·, .overwritten)
    else []
  | .pop, _ => v.delivered?.toList.map (·, .delivered)
  | .clear, _ | .resize _, .done => v.before.items.map (·, .discarded)
  | .resize _, _ => []

end Visit

/-- The items pushed in a life, in order. -/
def pushed (vs : List (Visit α)) : List α := vs.filterMap Visit.pushed?

/-- The items delivered in a life, in order. -/
def delivered (vs : List (Visit α)) : List α := vs.filterMap Visit.delivered?

/-- The items that left in a life, in order. -/
def departures (vs : List (Visit α)) : List (α × Fate) := vs.flatMap Visit.departures

/-! ### What a visit does -/

/-- The capacity is in range, and the backlog is not over-full. -/
structure Bounded (b : Backlog α) : Prop where
  roomy : 1 ≤ b.capacity
  limited : b.capacity ≤ maxCapacity
  fits : b.size ≤ b.capacity

/-- The oldest item of a backlog with items is delivered, and those behind it stay. -/
lemma pop?_of_items {b : Backlog α} {oldest : α} {items : List α}
    (queued : b.items = oldest :: items) : b.pop? = (some oldest, { b with items := items }) := by
  rw [pop?, queued, List.head?_cons, List.tail_cons]

/-- Nothing is delivered exactly if the backlog is empty. -/
lemma pop?_eq_none_iff {b : Backlog α} : b.pop?.1 = none ↔ b.items = [] := List.head?_eq_none_iff

lemma eq_of_resize? {b b' : Backlog α} {capacity : Nat} (h : b.resize? capacity = some b') :
    1 ≤ capacity ∧ capacity ≤ maxCapacity ∧
      b' = { b with items := [], capacity := capacity } := by
  simp only [resize?] at h
  split at h
  · next allowed =>
    cases h
    exact ⟨allowed.1, allowed.2, rfl⟩
  · cases h

namespace Visit

variable {v : Visit α}

lemma bounded (h : v.before.Bounded) : v.after.Bounded := by
  obtain ⟨request, b⟩ := v
  cases request with
  | push a =>
    have same : (b.push a).capacity = b.capacity := capacity_push b a
    constructor
    · exact same ▸ h.roomy
    · exact same ▸ h.limited
    · exact same ▸ size_push_le a h.roomy h.fits
  | pop =>
    have fewer : b.items.tail.length ≤ b.items.length := by simp
    exact ⟨h.roomy, h.limited, fewer.trans h.fits⟩
  | clear => exact ⟨h.roomy, h.limited, Nat.zero_le _⟩
  | resize capacity =>
    simp only [after, carryOut]
    cases resized : b.resize? capacity with
    | none => exact h
    | some b' =>
      obtain ⟨roomy, limited, rfl⟩ := eq_of_resize? resized
      exact ⟨roomy, limited, Nat.zero_le _⟩

/-- What was queued before, followed by what is pushed, is what leaves, followed by what is queued
afterwards. -/
lemma account (v : Visit α) : v.before.items ++ v.pushed?.toList =
    v.departures.map Prod.fst ++ v.after.items := by
  obtain ⟨request, b⟩ := v
  cases request with
  | push a =>
    simp only [pushed?, departures, after, carryOut, items_push]
    by_cases full : b.size = b.capacity
    · rw [if_pos full, if_pos full]
      cases b.items with
      | nil => simp
      | cons oldest items => simp
    · simp [full]
  | pop =>
    simp only [pushed?, departures, delivered?, reply, after, carryOut, pop?]
    cases b.items with
    | nil => simp
    | cons oldest items => simp
  | clear => simp [pushed?, departures, after, carryOut, clear, Function.comp_def]
  | resize capacity =>
    simp only [pushed?, departures, reply, after, carryOut]
    cases resized : b.resize? capacity with
    | none => simp
    | some b' =>
      obtain ⟨-, -, rfl⟩ := eq_of_resize? resized
      simp [Function.comp_def]

end Visit

/-! ### Whole lives -/

lemma pushed_cons (v : Visit α) (vs : List (Visit α)) :
    pushed (v :: vs) = v.pushed?.toList ++ pushed vs := by
  simp [pushed, List.filterMap_eq_flatMap_toList]

lemma delivered_cons (v : Visit α) (vs : List (Visit α)) :
    delivered (v :: vs) = v.delivered?.toList ++ delivered vs := by
  simp [delivered, List.filterMap_eq_flatMap_toList]

lemma departures_cons (v : Visit α) (vs : List (Visit α)) :
    departures (v :: vs) = v.departures ++ departures vs := List.flatMap_cons

/-- What was queued at first, followed by what was pushed, is what left, followed by what is queued
at last. -/
lemma account (requests : List (Request α)) (b : Backlog α) :
    b.items ++ pushed (visits requests b) =
      (departures (visits requests b)).map Prod.fst ++ (carryOutAll requests b).items := by
  induction requests generalizing b with
  | nil => simp [visits, pushed, departures, carryOutAll]
  | cons request requests ih =>
    let v : Visit α := ⟨request, b⟩
    calc
      b.items ++ pushed (visits (request :: requests) b)
          = (b.items ++ v.pushed?.toList) ++ pushed (visits requests v.after) := by
        rw [visits, pushed_cons, List.append_assoc]
        rfl
      _ = v.departures.map Prod.fst ++ (v.after.items ++ pushed (visits requests v.after)) := by
        rw [v.account, List.append_assoc]
      _ = (v.departures ++ departures (visits requests v.after)).map Prod.fst ++
            (carryOutAll requests v.after).items := by
        rw [ih, List.map_append, List.append_assoc]
      _ = _ := by
        rw [visits, departures_cons]
        rfl

/-- What a read takes at once is what as many pops deliver, and it leaves what they leave. -/
lemma take_eq_pops (count : Nat) (b : Backlog α) :
    b.take count = (delivered (visits (.replicate count .pop) b),
      carryOutAll (.replicate count .pop) b) := by
  induction count generalizing b with
  | zero => rfl
  | succ count ih =>
    calc
      b.take (count + 1)
          = (b.pop?.1.toList ++ (b.pop?.2.take count).1, (b.pop?.2.take count).2) := by
        obtain ⟨items, capacity, overwritten⟩ := b
        cases items with
        | nil => simp [take, pop?]
        | cons oldest items => rfl
      _ = _ := by
        rw [ih, List.replicate_succ, visits, carryOutAll, delivered_cons]
        rfl

/-- Of four items pushed into a backlog for two, the first one is overwritten, the second one
delivered and the third one discarded. -/
example : departures (visits [.push 'a', .push 'b', .push 'c', .pop, .clear, .push 'd']
    (.empty 2)) = [('a', .overwritten), ('b', .delivered), ('c', .discarded)] := by decide

end InertialSensor.Backlog
