import CircuitDispatch.OpenQasm.OfBlock
import CircuitDispatch.Proofs.Sequencing

/-!
# The parts of a block's program

The program of a block declares what it needs, executes the calls of the instructions in one box,
and then measures (`Program.ofBlock_eq`, `Program.of_ofBlock`). Every column is measured from the
physical qubit of the block's qubit in that column, and nothing else is measured
(`Program.measure_mem_iff`).

Only an angle without a value keeps a block from having a program: it fails as the angles of its
instructions in a row do (`Program.failAlike_ofBlock`).
-/

namespace CircuitDispatch

variable {R : Type}

/-- The angles of the instructions of a block, in order. -/
def NativeBlock.angles (block : NativeBlock R) : List (Angle R) :=
  block.instructions.flatMap fun i => i.gate.angles

/-- The statements that declare what the program of a block needs. -/
def NativeBlock.declarations (block : NativeBlock R) : List (OpenQasm.Statement R) :=
  .version :: if block.measured.length = 0 then [] else [.bits "b" block.measured.length]

/-- The statements that measure the qubits of a block. -/
def NativeBlock.measurements (block : NativeBlock R) : List (OpenQasm.Statement R) :=
  block.measured.zipIdx.map fun (qubit, column) =>
    .measure "b" column (.physical (block.physical qubit))

namespace OpenQasm

/-- Whether a statement only says what follows. -/
def Statement.declares : Statement R → Bool
  | .version | .qubits _ | .bits _ _ => true
  | .gate _ | .verbatimBox _ | .measure _ _ _ => false

variable {block : NativeBlock R} {program : Program R}

theorem declares_of_mem_declarations {s : Statement R} (h : s ∈ block.declarations) :
    s.declares = true := by
  rcases List.mem_cons.mp h with rfl | h
  · rfl
  · split at h
    · cases h
    · rw [List.mem_singleton.mp h]
      rfl

/-- The measurements of a block, column by column. -/
theorem mem_measurements {register : String} {column : Nat} {operand : Operand} :
    .measure register column operand ∈ block.measurements ↔
      register = "b" ∧ ∃ q, block.measured[column]? = some q ∧
        operand = .physical (block.physical q) := by
  simp only [NativeBlock.measurements, List.mem_map, Prod.exists, List.mem_zipIdx_iff_getElem?,
    Statement.measure.injEq]
  constructor
  · rintro ⟨q, i, hq, rfl, rfl, rfl⟩
    exact ⟨rfl, q, hq, rfl⟩
  · rintro ⟨rfl, q, hq, rfl⟩
    exact ⟨q, column, hq, rfl, rfl, rfl⟩

variable [Scalar R]

/-- The call for an instruction takes the values of its angles. -/
theorem GateCall.ofInstruction_eq (block : NativeBlock R) (i : Instruction R) :
    GateCall.ofInstruction block i = (i.gate.angles.mapM Angle.number).map fun values =>
      ⟨i.gate.name, values, i.qubits.map fun q => .physical (block.physical q)⟩ := by
  unfold GateCall.ofInstruction
  cases i.gate.angles.mapM Angle.number <;> rfl

/-- **A program in full.** -/
theorem Program.ofBlock_eq (block : NativeBlock R) : Program.ofBlock block
    = (block.instructions.mapM (GateCall.ofInstruction block)).map fun calls =>
      block.declarations ++ .verbatimBox calls :: block.measurements := by
  unfold Program.ofBlock
  cases block.instructions.mapM (GateCall.ofInstruction block) with
  | error e => rfl
  | ok calls => exact congrArg Except.ok (List.append_cons ..).symm

/-- **Instructions become calls**, one by one. -/
theorem Program.eq_of_ofBlock (h : Program.ofBlock block = .ok program) :
    ∃ calls, block.instructions.mapM (GateCall.ofInstruction block) = .ok calls ∧
      program = block.declarations ++ .verbatimBox calls :: block.measurements := by
  rw [ofBlock_eq] at h
  obtain ⟨calls, hcalls, rfl⟩ := map_eq_ok_iff.mp h
  exact ⟨calls, hcalls, rfl⟩

/-- **The parts of a program.** -/
theorem Program.of_ofBlock (h : Program.ofBlock block = .ok program) :
    ∃ declarations calls, (∀ s ∈ declarations, s.declares = true) ∧
      block.instructions.mapM (GateCall.ofInstruction block) = .ok calls ∧
      program = declarations ++ .verbatimBox calls :: block.measurements := by
  obtain ⟨calls, hcalls, heq⟩ := eq_of_ofBlock h
  exact ⟨block.declarations, calls, fun _ => declares_of_mem_declarations, hcalls, heq⟩

/-- **A program fails as the angles** of the instructions do. -/
theorem Program.failAlike_ofBlock (block : NativeBlock R) :
    FailAlike (Program.ofBlock block) (block.angles.mapM Angle.number) := by
  rw [ofBlock_eq]
  exact (failAlike_mapM_flatMap (GateCall.ofInstruction_eq block) block.instructions).map _

/-- **What a program measures.** -/
theorem Program.measure_mem_iff (h : Program.ofBlock block = .ok program) {register : String}
    {column : Nat} {operand : Operand} :
    .measure register column operand ∈ program ↔
      register = "b" ∧ ∃ q, block.measured[column]? = some q ∧
        operand = .physical (block.physical q) := by
  obtain ⟨declarations, calls, hdeclares, -, rfl⟩ := Program.of_ofBlock h
  rw [← mem_measurements, List.mem_append, List.mem_cons]
  constructor
  · rintro (hmem | hmem | hmem)
    · cases hdeclares _ hmem
    · cases hmem
    · exact hmem
  · exact fun hmem => .inr (.inr hmem)

end OpenQasm

end CircuitDispatch
