import CircuitDispatch.Angle.Basic

/-!
# The phase ledger

A Z rotation by `θ` before a gate about an axis of the equator equals the same
rotation after that gate with its azimuth lessened by `θ`. So rotations can be
pushed to the end of a circuit, and each gate on the way is shifted by what is
pending on its qubit. The ledger holds the pending rotation of every qubit that
was ever rotated; reading it changes nothing, since the rotation is still
pending afterwards.
-/

namespace CircuitDispatch

variable {R : Type}

/-- The rotations about Z that are still pending, by qubit. -/
structure PhaseLedger (R : Type) where
  phases : SortedMap Nat (Angle R)

namespace PhaseLedger

/-- Nothing is pending. -/
def empty : PhaseLedger R := ⟨∅⟩

variable [Scalar R]

/-- The rotation pending on a qubit. -/
def phase (ledger : PhaseLedger R) (qubit : Nat) : Angle R :=
  (ledger.phases.get? qubit).getD Angle.zero

/-- Records one more rotation of a qubit. -/
def accumulate (ledger : PhaseLedger R) (qubit : Nat) (theta : Angle R) : PhaseLedger R :=
  ⟨ledger.phases.insert qubit (Angle.add (ledger.phase qubit) theta).simplify⟩

/-- An azimuth on a qubit, lessened by the pending rotation. -/
def shifted (ledger : PhaseLedger R) (qubit : Nat) (azimuth : Angle R) : Angle R :=
  match ledger.phases.get? qubit with
  | some phase => (Angle.sub azimuth phase).simplify
  | none => azimuth

/-- The pending rotations that are not zero. After the last gate they commute with the
measurement, so they may be dropped. -/
def residuals (ledger : PhaseLedger R) : SortedMap Nat (Angle R) :=
  ledger.phases.filter fun _ phase => !phase.isZero

end PhaseLedger

end CircuitDispatch
