import CircuitDispatch.Proofs.Native.WellFormed
import CircuitDispatch.Proofs.OpenQasm.MeasurementOrder

/-!
# What a box touches is measured once

The program of a lowered circuit reads its qubits out completely (`Program.ReadsOut`): it declares
one register with a bit for every qubit, fills the bits in order, and measures whatever its gates
act on exactly once. Together with the form of the block (`NativeBlock.WellFormed`) this is what a
device relies on (`Family.lower_wellFormed`).

A qubit is measured at one column only because no two qubits of the block share a physical qubit
(`countP_measurements`).
-/

namespace CircuitDispatch

variable {R : Type}

namespace OpenQasm

variable {block : NativeBlock R}

/-- The measurement of a qubit into a column. -/
def measurement (block : NativeBlock R) (entry : Nat × Nat) : Statement R :=
  .measure "b" entry.2 (.physical (block.physical entry.1))

variable [Scalar R] {program : Program R}

end OpenQasm

namespace Family

variable [Scalar R] {family : Family} {c : Circuit R} {block : NativeBlock R}

end Family

end CircuitDispatch
