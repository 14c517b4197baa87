import InertialSensor.Transport

/-!
# Planned faults

A transport in front of another one that spoils transfers by a plan: each transfer takes the first
fault off the plan, and goes through untouched once the plan is empty.
-/

namespace InertialSensor.Simulation

/-- What is done to a transfer. -/
inductive Fault where
  /-- Nothing. -/
  | pass
  /-- The transfer fails without reaching the sensor. -/
  | fail
  /-- A read claims this number of bytes. -/
  | claim (count : Nat)
  /-- The first byte read is combined with a mask by exclusive or. -/
  | flip (mask : UInt8)
deriving DecidableEq

/-- What a fault makes of a successful read. -/
def Fault.spoil {n : Nat} (r : Reading n) : Fault → Reading n
  | claim count => { r with count := count }
  | flip mask => { r with bytes := r.bytes.mapIdx fun i b => if i = 0 then b ^^^ mask else b }
  | _ => r

/-- A transport and the faults of the coming transfers. -/
structure FaultPlan (σ : Type) where
  inner : σ
  plan : List Fault := []

namespace FaultPlan

variable {σ : Type}

/-- The text of a planned failure. -/
def failureText : String := "injected fault"

/-- The fault of the next transfer, and the plan without it. -/
def next (p : FaultPlan σ) : Fault × FaultPlan σ :=
  match p.plan with
  | [] => (.pass, p)
  | fault :: rest => (fault, { p with plan := rest })

instance [Transport σ] : Transport (FaultPlan σ) where
  read address speed buffer p :=
    match p.next with
    | (.fail, p) => (.error failureText, p)
    | (fault, p) =>
      let (result, inner) := Transport.read address speed buffer p.inner
      (result.map fault.spoil, { p with inner := inner })
  write address value p :=
    match p.next with
    | (.fail, p) => (.error failureText, p)
    | (_, p) =>
      let (result, inner) := Transport.write address value p.inner
      (result, { p with inner := inner })
  placement p := Transport.placement p.inner
  deviceId p := Transport.deviceId p.inner

end FaultPlan

end InertialSensor.Simulation
