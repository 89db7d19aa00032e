import CircuitDispatch.Angle.Layout
import CircuitDispatch.Json.Printer
import CircuitDispatch.Native.Lowering

/-!
# The layout of native blocks

A native block is written as an object for inspection: its instructions with
their arities and angles, where its qubits are placed, which are measured, and
which rotations are left over. Angles are written as JSON texts.
-/

namespace CircuitDispatch

/-- The JSON value of angles by qubit, as pairs. -/
def residualsToJson (m : SortedMap Nat (Angle Float)) : Json :=
  Json.ofList (fun (q, a) => .array [.natural q, .string a.toJson.render]) m.entries

/-- The JSON value of an instruction. -/
def Instruction.toJson (i : Instruction Float) : Json :=
  .object [("gate", .string i.gate.name), ("arity", .natural i.gate.arity),
    ("params", Json.ofList (fun a => .string a.toJson.render) i.gate.angles),
    ("qubits", Json.ofList .natural i.qubits)]

/-- The members of a native block's JSON value. -/
def NativeBlock.members (b : NativeBlock Float) : List (String × Json) :=
  [("family", b.family.toJson), ("len", .natural b.instructions.length),
    ("empty", .bool b.instructions.isEmpty),
    ("instructions", Json.ofList Instruction.toJson b.instructions),
    ("mapping", Json.ofList (fun (l, p) => .array [.natural l, .natural p]) b.placement.entries),
    ("measured", Json.ofList .natural b.measured), ("residuals", residualsToJson b.residuals)]

end CircuitDispatch
