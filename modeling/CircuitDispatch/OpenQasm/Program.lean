import CircuitDispatch.Scalar

/-!
# OpenQASM programs

A program is a list of statements; `Program.render` writes it, one statement a
line. Gates act either on the qubits of the register `q` or on physical qubits,
which are written with a dollar sign, and physical gates that must not be
compiled stand in a box.
-/

namespace CircuitDispatch.OpenQasm

/-- What a gate or a measurement acts on. -/
inductive Operand where
  /-- A qubit of the register `q`. -/
  | logical (index : Nat)
  /-- A physical qubit. -/
  | physical (index : Nat)
  deriving DecidableEq, Repr

/-- A gate with the values of its arguments. -/
structure GateCall (R : Type) where
  name : String
  arguments : List R
  operands : List Operand
  deriving DecidableEq, Repr

/-- A statement of a program. -/
inductive Statement (R : Type) where
  /-- The version line. -/
  | version
  /-- Declares the register `q` of qubits. -/
  | qubits (width : Nat)
  /-- Declares a register of bits. -/
  | bits (name : String) (width : Nat)
  /-- A gate. -/
  | gate (call : GateCall R)
  /-- Gates that are executed as they stand. -/
  | verbatimBox (calls : List (GateCall R))
  /-- Measures into one bit of a register. -/
  | measure (register : String) (index : Nat) (operand : Operand)
  deriving DecidableEq, Repr

/-- A program. -/
abbrev Program (R : Type) := List (Statement R)

/-- The text of an operand. -/
def Operand.render : Operand → String
  | .logical index => s!"q[{index}]"
  | .physical index => s!"${index}"

variable {R : Type} [Scalar R]

/-- The text of a gate. -/
def GateCall.render (call : GateCall R) : String :=
  let arguments :=
    if call.arguments.isEmpty then ""
    else "(" ++ ", ".intercalate (call.arguments.map Scalar.text) ++ ")"
  call.name ++ arguments ++ " " ++ ", ".intercalate (call.operands.map Operand.render) ++ ";"

/-- The lines of a statement. -/
def Statement.lines : Statement R → List String
  | .version => ["OPENQASM 3.0;"]
  | .qubits width => [s!"qubit[{width}] q;"]
  | .bits name width => [s!"bit[{width}] {name};"]
  | .gate call => [call.render]
  | .verbatimBox calls =>
    ["#pragma braket verbatim", "box \x7b"] ++ calls.map (fun call => "    " ++ call.render)
      ++ ["\x7d"]
  | .measure register index operand => [s!"{register}[{index}] = measure {operand.render};"]

/-- The text of a program. -/
def Program.render (program : Program R) : String :=
  String.join ((program.flatMap Statement.lines).map (· ++ "\n"))

end CircuitDispatch.OpenQasm
