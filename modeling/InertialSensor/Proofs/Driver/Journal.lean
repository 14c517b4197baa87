import InertialSensor.Proofs.Driver.Invariant

/-!
# Journals

The bus behind a `Journal` behaves as it does without one, while every transfer is written down in
the order in which they are attempted. What a cycle does to the bus can then be told from the
entries that it adds (`Passage.transfers`).
-/

namespace InertialSensor

/-- A transfer that was attempted, and whether it succeeded. -/
inductive Transfer where
  | read (address : UInt8) (length : Nat) (succeeded : Bool)
  | write (address value : UInt8) (succeeded : Bool)
deriving DecidableEq

/-- A transport, and the transfers attempted through it, the earliest first. -/
structure Journal (σ : Type) where
  inner : σ
  entries : List Transfer := []

namespace Journal

variable {σ : Type} [Transport σ]

instance : Transport (Journal σ) where
  read {n} address speed buffer j :=
    let (result, inner) := Transport.read address speed buffer j.inner
    (result, ⟨inner, j.entries ++ [.read address n result.isOk]⟩)
  write address value j :=
    let (result, inner) := Transport.write address value j.inner
    (result, ⟨inner, j.entries ++ [.write address value result.isOk]⟩)
  placement j := Transport.placement j.inner
  deviceId j := Transport.deviceId j.inner

lemma entries_read {n : Nat} (address : UInt8) (speed : Speed) (buffer : Vector UInt8 n)
    (j : Journal σ) : (Transport.read address speed buffer j).2.entries =
      j.entries ++ [.read address n (Transport.read address speed buffer j).1.isOk] := rfl

lemma entries_write (address value : UInt8) (j : Journal σ) :
    (Transport.write address value j).2.entries =
      j.entries ++ [.write address value (Transport.write address value j).1.isOk] := rfl

/-- Entries are never taken back. -/
lemma prefix_invariant (past : List Transfer) :
    Driver.BusInvariant fun j : Journal σ => past <+: j.entries where
  read address speed buffer j h := by
    rw [entries_read]
    exact h.trans (List.prefix_append _ _)
  write address value j h := by
    rw [entries_write]
    exact h.trans (List.prefix_append _ _)

end Journal

namespace Passage

variable {σ : Type} [Transport σ] {p : Passage (Journal σ)}

/-- The transfers that the cycle attempts, the earliest first. -/
def transfers (p : Passage (Journal σ)) : List Transfer :=
  p.after.bus.entries.drop p.before.bus.entries.length

lemma transfers_eq {new : List Transfer}
    (h : p.after.bus.entries = p.before.bus.entries ++ new) : p.transfers = new := by
  rw [transfers, h, List.drop_left]

/-- A cycle that leaves the bus as it is attempts no transfer. -/
lemma transfers_of_same (h : p.after.bus = p.before.bus) : p.transfers = [] :=
  transfers_eq (by rw [h, List.append_nil])

end Passage

end InertialSensor
