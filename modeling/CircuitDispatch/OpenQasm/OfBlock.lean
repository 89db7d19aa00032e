import CircuitDispatch.Native.Lowering
import CircuitDispatch.OpenQasm.Program

/-!
# Programs of native blocks

The instructions of a native block stand in one box, on physical qubits. After
the box every measured qubit is read into its column of the register `b`.
-/

namespace CircuitDispatch.OpenQasm

variable {R : Type} [Scalar R]

/-- An instruction on physical qubits. -/
def GateCall.ofInstruction (block : NativeBlock R) (instruction : Instruction R) :
    Except CompileError (GateCall R) := do
  let arguments ← instruction.gate.angles.mapM Angle.number
  return ⟨instruction.gate.name, arguments,
    instruction.qubits.map fun q => .physical (block.physical q)⟩

/-- The program of a native block. -/
def Program.ofBlock (block : NativeBlock R) : Except CompileError (Program R) := do
  let calls ← block.instructions.mapM (GateCall.ofInstruction block)
  let width := block.measured.length
  let declarations : Program R := if width = 0 then [] else [.bits "b" width]
  let measurements : Program R := block.measured.zipIdx.map fun (qubit, column) =>
    .measure "b" column (.physical (block.physical qubit))
  return [.version] ++ declarations ++ [.verbatimBox calls] ++ measurements

end CircuitDispatch.OpenQasm

namespace CircuitDispatch.NativeBlock

/-- The text of a native block as a program. -/
def openQasm {R : Type} [Scalar R] (block : NativeBlock R) : Except CompileError String :=
  (OpenQasm.Program.ofBlock block).map OpenQasm.Program.render

end CircuitDispatch.NativeBlock
