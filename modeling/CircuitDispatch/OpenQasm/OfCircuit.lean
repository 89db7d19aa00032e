import CircuitDispatch.Native.Lowering
import CircuitDispatch.OpenQasm.Program

/-!
# Programs of circuits

A circuit becomes a program on the register `q`: the declarations, one statement
for each gate and each measurement in order, and, when nothing is measured by
itself but a number of shots is declared, a measurement of every qubit into the
register of the first such declaration.
-/

namespace CircuitDispatch.OpenQasm

variable {R : Type}

/-- The registers of bits that a circuit declares, first declared first. -/
def registerNames (c : Circuit R) : List String :=
  (c.operations.filterMap fun
    | .define .bit name _ _ => some name
    | _ => none).eraseDups

/-- The length with which a register of bits is last declared. -/
def lastLength? (c : Circuit R) (name : String) : Option Nat :=
  c.operations.reverse.findSome? fun
    | .define .bit defined length _ => if defined = name then some length else none
    | _ => none

/-- The register that all qubits are measured into, if the circuit measures none by itself. -/
def measureAllInto? (c : Circuit R) : Option String :=
  if c.operations.any fun | .measure _ _ _ => true | _ => false then none
  else (c.operations.findSome? Operation.shotDeclaration?).map (·.2)

/-- The registers of bits with their widths. The register that all qubits are measured into has
room for them; without a length of its own it is declared behind the others. -/
def registers (c : Circuit R) : List (String × Nat) :=
  let declared := registerNames c
  let width (name : String) : Nat := (lastLength? c name).getD 0
  match measureAllInto? c with
  | none => declared.map fun name => (name, width name)
  | some readout =>
    let names := if width readout = 0 then declared ++ [readout] else declared
    names.map fun name =>
      (name, if name = readout then max (width readout) c.numberOfQubits else width name)

variable [Scalar R]

/-- The name and the arguments of a gate on one qubit. -/
def singleCall : SingleGate R → String × List (Angle R)
  | .rotateZ theta => ("rz", [theta])
  | .rotateX theta => ("rx", [theta])
  | .rotateY theta => ("ry", [theta])
  | .rotateXY theta phi => ("prx", [theta, phi])
  | .pauliX => ("x", [])
  | .pauliY => ("y", [])
  | .pauliZ => ("z", [])
  | .sqrtPauliX => ("v", [])
  | .invSqrtPauliX => ("vi", [])
  | .hadamard => ("h", [])
  | .gpi theta => ("gpi", [theta])
  | .gpi2 theta => ("gpi2", [theta])

/-- The name and the arguments of a gate on two qubits. -/
def pairCall : PairGate R → String × List (Angle R)
  | .cnot => ("cnot", [])
  | .controlledPauliZ => ("cz", [])
  | .controlledPhaseShift theta => ("cphaseshift", [theta])
  | .xy theta => ("xy", [theta])
  | .molmerSorensenXX => ("ms", [Angle.zero, Angle.zero, Angle.quarterTurn])
  | .variableMSXX theta => ("ms", [Angle.zero, Angle.zero, theta])
  | .echoCrossResonance => ("ecr", [])

/-- A gate on qubits of the register `q`. -/
def gateStatement (call : String × List (Angle R)) (qubits : List Nat) :
    Except CompileError (Statement R) := do
  let arguments ← call.2.mapM Angle.number
  return .gate ⟨call.1, arguments, qubits.map .logical⟩

/-- The statement for an operation; only gates and measurements have one. -/
def statement? : Operation R → Except CompileError (Option (Statement R))
  | .single gate qubit => some <$> gateStatement (singleCall gate) [qubit]
  | .pair gate control target => some <$> gateStatement (pairCall gate) [control, target]
  | .measure qubit readout index => .ok (some (.measure readout index (.logical qubit)))
  | _ => .ok none

/-- The program of a circuit. -/
def Program.ofCircuit (c : Circuit R) : Except CompileError (Program R) := do
  let width := c.numberOfQubits
  let qubits : Program R := if width = 0 then [] else [.qubits width]
  let declarations : Program R := (registers c).map fun (name, width) => .bits name width
  let statements ← c.operations.filterMapM statement?
  let measurements : Program R :=
    match measureAllInto? c with
    | some readout => (List.range width).map fun q => .measure readout q (.logical q)
    | none => []
  return [.version] ++ qubits ++ declarations ++ statements ++ measurements

end CircuitDispatch.OpenQasm

namespace CircuitDispatch.Circuit

/-- The text of a circuit as a program. -/
def openQasm {R : Type} [Scalar R] (c : Circuit R) : Except CompileError String :=
  (OpenQasm.Program.ofCircuit c).map OpenQasm.Program.render

end CircuitDispatch.Circuit
