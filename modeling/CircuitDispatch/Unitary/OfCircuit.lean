import CircuitDispatch.Unitary.Dense

/-!
# Matrices of circuits and blocks

The matrix of a circuit is the product of the matrices of its gates; other
operations do not count. The same holds of a native block, whose pending
rotations can be put behind it. A qubit beyond the matrix is refused.
-/

namespace CircuitDispatch.Unitary

variable {R : Type} [Trigonometric R] {n : Nat}

/-- A matrix of amplitudes on `n` qubits. -/
abbrev Matrix (R : Type) (n : Nat) := Dense (Amplitude R) n

/-- A qubit of a matrix on `n` qubits. -/
def qubit (n q : Nat) : Except CompileError (Fin n) :=
  if h : q < n then .ok ⟨q, h⟩ else .error (.qubitOutOfRange q n)

namespace Matrix

/-- The matrix that changes nothing. -/
def identity (n : Nat) : Matrix R n :=
  Dense.ofEntries fun r c => if r = c then Amplitude.one else Amplitude.zero

/-- Applies a one-qubit gate to a qubit. -/
def single (m : Matrix R n) (gate : Single (Amplitude R)) (q : Nat) :
    Except CompileError (Matrix R n) := do
  return m.applySingle gate (← qubit n q)

/-- Applies a two-qubit gate to two qubits. -/
def pair (m : Matrix R n) (gate : Pair (Amplitude R)) (first second : Nat) :
    Except CompileError (Matrix R n) := do
  return m.applyPair Amplitude.zero gate (← qubit n first) (← qubit n second)

/-- Applies an operation of a circuit. -/
def operation (m : Matrix R n) : Operation R → Except CompileError (Matrix R n)
  | .single gate q => do m.single (← ofSingleGate gate) q
  | .pair gate control target => do m.pair (← ofPairGate gate) control target
  | _ => .ok m

/-- Applies a native instruction. One that lacks a qubit of its gate does nothing. -/
def instruction (m : Matrix R n) (instr : Instruction R) : Except CompileError (Matrix R n) := do
  match ← ofNativeGate instr.gate, instr.qubits with
  | .inl gate, q :: _ => m.single gate q
  | .inr gate, first :: second :: _ => m.pair gate first second
  | _, _ => return m

/-- Applies a pending rotation. -/
def residual (m : Matrix R n) (pending : Nat × Angle R) : Except CompileError (Matrix R n) := do
  m.single (.rz (← pending.2.number)) pending.1

end Matrix

end CircuitDispatch.Unitary

namespace CircuitDispatch

variable {R : Type} [Trigonometric R]

open CircuitDispatch.Unitary

/-- The matrix of a circuit on `n` qubits. -/
def Circuit.unitary (c : Circuit R) (n : Nat) : Except CompileError (Matrix R n) :=
  c.operations.foldlM Matrix.operation (.identity n)

/-- The matrix of a native block on `n` logical qubits, without what is still pending. -/
def NativeBlock.unitary (block : NativeBlock R) (n : Nat) : Except CompileError (Matrix R n) :=
  block.instructions.foldlM Matrix.instruction (.identity n)

/-- The matrix of a native block with the pending rotations behind it. -/
def NativeBlock.unitaryWithResiduals (block : NativeBlock R) (n : Nat) :
    Except CompileError (Matrix R n) := do
  block.residuals.entries.foldlM Matrix.residual (← block.unitary n)

end CircuitDispatch
