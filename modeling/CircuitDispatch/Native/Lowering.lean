import CircuitDispatch.Circuit.Basic
import CircuitDispatch.Native.Family
import CircuitDispatch.Native.Gate
import CircuitDispatch.Native.PhaseLedger

/-!
# Lowering to native gates

`Family.lower` walks a circuit once, in order. A family folds an operation into
the phase ledger, makes one native instruction of it, skips it, or has no place
for it; in the last case the first such operation is reported. Then every qubit
of the circuit is placed on the device.
-/

namespace CircuitDispatch

variable {R : Type}

/-- Why a circuit cannot be lowered, written out or turned into a matrix. -/
inductive CompileError where
  /-- An operation has no place on devices of the family. -/
  | unsupportedOperation (tag : String) (family : Family)
  /-- A qubit has no place on devices of the family. -/
  | unmappedQubit (family : Family) (qubit : Nat)
  /-- A qubit is beyond the matrix. -/
  | qubitOutOfRange (qubit width : Nat)
  /-- The circuit itself is at fault, mostly by an angle without value. -/
  | circuit (error : CircuitError)
  deriving DecidableEq, Repr

/-- The message for an error. -/
def CompileError.message : CompileError → String
  | .unsupportedOperation tag family =>
    s!"Operation '{tag}' is not supported by the {family.name} verbatim translator"
  | .unmappedQubit family qubit =>
    s!"Logical qubit {qubit} has no physical qubit on {family.name} devices"
  | .qubitOutOfRange qubit width => s!"Qubit {qubit} is out of range for a {width}-qubit unitary"
  | .circuit error => error.message

/-- The value of an angle as a step of compilation. -/
def Angle.number [Scalar R] (a : Angle R) : Except CompileError R :=
  match a.value with
  | .ok v => .ok v
  | .error e => .error (.circuit e)

/-- A circuit in native instructions on logical qubits. -/
structure NativeBlock (R : Type) where
  family : Family
  instructions : List (Instruction R)
  /-- The physical index of every logical qubit of the circuit. -/
  placement : SortedMap Nat Nat
  /-- The logical qubits that are measured at the end, in the order of the result's columns. -/
  measured : List Nat
  /-- The rotations about Z that were still pending after the last gate. -/
  residuals : SortedMap Nat (Angle R)

/-- The physical index of a logical qubit; a qubit without one stands for itself. -/
def NativeBlock.physical (block : NativeBlock R) (logical : Nat) : Nat :=
  (block.placement.get? logical).getD logical

/-- What a family makes of one operation. -/
inductive Lowered (R : Type) where
  /-- A rotation about Z that is recorded and not executed. -/
  | fold (qubit : Nat) (theta : Angle R)
  /-- An instruction. -/
  | emit (instruction : Instruction R)
  /-- Nothing. -/
  | skip

namespace Family

variable [Scalar R]

/-- An instruction on one qubit. -/
def onQubit (gate : NativeGate R) (qubit : Nat) : Option (Lowered R) :=
  some (.emit ⟨gate, [qubit]⟩)

/-- An instruction on two qubits. -/
def onPair (gate : NativeGate R) (first second : Nat) : Option (Lowered R) :=
  some (.emit ⟨gate, [first, second]⟩)

/-- The Mølmer–Sørensen gate between two qubits with pending rotations. -/
def entangle (ledger : PhaseLedger R) (first second : Nat) (theta : Angle R) :
    Option (Lowered R) :=
  onPair (.ms (ledger.shifted first Angle.zero) (ledger.shifted second Angle.zero) theta)
    first second

/-- What the family makes of a gate on one qubit. -/
def lowerSingle? (family : Family) (ledger : PhaseLedger R) (gate : SingleGate R) (qubit : Nat) :
    Option (Lowered R) :=
  match family, gate with
  | .ionq, .rotateZ theta => some (.fold qubit theta)
  | .ionq, .gpi theta => onQubit (.gpi (ledger.shifted qubit theta)) qubit
  | .ionq, .gpi2 theta => onQubit (.gpi2 (ledger.shifted qubit theta)) qubit
  | .rigetti, .pauliX => onQubit (.rx .pi) qubit
  | .rigetti, .sqrtPauliX => onQubit (.rx Angle.quarterTurn) qubit
  | .rigetti, .invSqrtPauliX => onQubit (.rx (.neg Angle.quarterTurn)) qubit
  | .rigetti, .rotateZ theta => onQubit (.rz theta) qubit
  | .oqc, .rotateZ theta => onQubit (.rz theta) qubit
  | .oqc, .sqrtPauliX => onQubit .v qubit
  | .oqc, .pauliX => onQubit .x qubit
  | .iqm, .rotateZ theta => some (.fold qubit theta)
  | .iqm, .rotateXY theta phi => onQubit (.prx theta (ledger.shifted qubit phi)) qubit
  | _, _ => none

/-- What the family makes of a gate on two qubits. -/
def lowerPair? (family : Family) (ledger : PhaseLedger R) (gate : PairGate R)
    (control target : Nat) : Option (Lowered R) :=
  match family, gate with
  | .ionq, .molmerSorensenXX => entangle ledger control target Angle.quarterTurn
  | .ionq, .variableMSXX theta => entangle ledger control target theta
  | .rigetti, .controlledPauliZ => onPair .cz control target
  | .rigetti, .controlledPhaseShift theta => onPair (.cphaseshift theta) control target
  | .rigetti, .xy theta => onPair (.xy theta) control target
  | .oqc, .echoCrossResonance => onPair .ecr control target
  | .iqm, .controlledPauliZ => onPair .cz control target
  | _, _ => none

/-- What the family makes of an operation, if it has a place for it. -/
def lowerOperation? (family : Family) (ledger : PhaseLedger R) :
    Operation R → Option (Lowered R)
  | .single gate qubit => family.lowerSingle? ledger gate qubit
  | .pair gate control target => family.lowerPair? ledger gate control target
  | .globalPhase _ => if family = .iqm then some .skip else none
  | _ => some .skip

/-- The instructions for operations in order, and the ledger after them. -/
def lowerOperations (family : Family) (ledger : PhaseLedger R) :
    List (Operation R) → Except CompileError (List (Instruction R) × PhaseLedger R)
  | [] => .ok ([], ledger)
  | op :: rest =>
    match family.lowerOperation? ledger op with
    | none => .error (.unsupportedOperation op.tag family)
    | some (.fold qubit theta) => family.lowerOperations (ledger.accumulate qubit theta) rest
    | some (.emit instruction) => do
      let (instructions, ledger) ← family.lowerOperations ledger rest
      return (instruction :: instructions, ledger)
    | some .skip => family.lowerOperations ledger rest

omit [Scalar R] in
/-- The place of a logical qubit. -/
def place (family : Family) (qubit : Nat) : Except CompileError (Nat × Nat) :=
  match family.physical? qubit with
  | some physical => .ok (qubit, physical)
  | none => .error (.unmappedQubit family qubit)

/-- Lowers a whole circuit. -/
def lower (family : Family) (circuit : Circuit R) : Except CompileError (NativeBlock R) := do
  let (instructions, ledger) ← family.lowerOperations .empty circuit.operations
  let placement ← circuit.qubits.mapM family.place
  return {
    family
    instructions
    placement := .ofList placement
    measured := circuit.qubits
    residuals := ledger.residuals
  }

end Family

end CircuitDispatch
