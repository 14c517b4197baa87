import InertialSensor.Integrity.Shadow

/-!
# Watching the registers

One checked register is compared with its shadow in every measurement cycle. A wrong value outside
a recovery, or in the register that selects the clock source, orders a reset of the chip; any other
one orders a repair of that register alone. Either order holds sampling until a deadline, and
withholds data until twenty more good transfers have gone by.
-/

namespace InertialSensor.Integrity

/-- What is to be done about a wrong value. -/
inductive Recovery where
  /-- Reset the chip. -/
  | reset (deadline : UInt64)
  /-- Write the value to the register. -/
  | repair (address value : UInt8) (deadline : UInt64)
deriving DecidableEq

/-- The good transfers for which data is withheld after a wrong value. -/
def settleCount : Nat := 20

/-- Microseconds without transfers after a reset. -/
def resetHold : UInt64 := 10000

/-- Microseconds without transfers after a repair. -/
def repairHold : UInt64 := 3000

/-- The shadow and the progress of a recovery. -/
structure Watch where
  shadow : Shadow := .blank
  /-- The good transfers for which data is still withheld. -/
  settling : Nat := 0
  /-- The time before which there are no transfers, zero if no recovery was ordered. -/
  holdUntil : UInt64 := 0
  /-- A reset was ordered and the clock source is yet to be restored. -/
  wakePending : Bool := false
deriving DecidableEq

namespace Watch

/-- A recovery forbids transfers at this time. -/
def isHolding (now : UInt64) (w : Watch) : Bool := now < w.holdUntil

/-- Compares the value found in the register at the cursor with the shadow. -/
def check (found : UInt8) (now : UInt64) (w : Watch) : Option Recovery × Watch :=
  if found = w.shadow.value then
    (none, { w with shadow := w.shadow.advance })
  else if w.settling = 0 ∨ w.shadow.cursor.val = 0 then
    let deadline := now + resetHold
    (some (.reset deadline),
      { shadow := w.shadow.rewind
        settling := settleCount
        holdUntil := deadline
        wakePending := true })
  else
    let deadline := now + repairHold
    (some (.repair w.shadow.address w.shadow.value deadline),
      { w with
        shadow := w.shadow.advance
        settling := settleCount
        holdUntil := deadline })

/-- Counts one good transfer; says whether its data is to be withheld. -/
def settle (w : Watch) : Bool × Watch :=
  if w.settling = 0 then (false, w) else (true, { w with settling := w.settling - 1 })

/-- Takes note that the clock source is restored; says whether that was due. -/
def takeWake (w : Watch) : Bool × Watch := (w.wakePending, { w with wakePending := false })

/-- Forgets the progress of any recovery. -/
def clear (w : Watch) : Watch := { shadow := w.shadow.rewind }

/-- Keeps a value for a checked register. -/
def record (address value : UInt8) (w : Watch) : Watch :=
  { w with shadow := w.shadow.record address value }

end Watch

end InertialSensor.Integrity
