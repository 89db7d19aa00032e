import CircuitDispatch.Circuit.Layout
import CircuitDispatch.Json.Parser
import CircuitDispatch.Json.Printer
import CircuitDispatch.Registers.Basic
import CircuitDispatch.Service.Error

/-!
# Measurements

A measurement is a set of circuits, with an optional one that runs before each
of them, and a way to compute values from their registers. It can be written as
a text and read back. `ClassicalRegister` is the measurement that only collects
registers.
-/

namespace CircuitDispatch

/-- A measurement of type `M`. -/
class Measurement (M : Type) (R : outParam Type) where
  kind : M → MeasurementKind
  /-- The circuit that runs before every other. -/
  constantCircuit : M → Option (Circuit R)
  /-- The circuits in the order of their submission. -/
  circuits : M → List (Circuit R)
  /-- Values computed from the registers of all circuits. -/
  evaluate : M → Registers R → Except ServiceError (SortedMap String R)
  /-- A text that `ofPayload` reads back. -/
  payload : M → String
  ofPayload : MeasurementKind → String → Except ServiceError M

/-- The circuits to submit for a measurement. -/
def Measurement.submittedCircuits {M R : Type} [Measurement M R] (m : M) : List (Circuit R) :=
  match constantCircuit m with
  | some constant => (circuits m).map fun c => constant ++ c
  | none => circuits m

/-- The measurement that only collects registers. -/
structure ClassicalRegister (R : Type) where
  constantCircuit : Option (Circuit R)
  circuits : List (Circuit R)
  deriving BEq, DecidableEq

namespace ClassicalRegister

/-- The JSON value of a measurement. -/
def toJson (m : ClassicalRegister Float) : Json :=
  .object [("constant_circuit", Json.ofOption Circuit.toJson m.constantCircuit),
    ("circuits", Json.ofList Circuit.toJson m.circuits)]

/-- The measurement that a JSON value is the layout of. -/
def ofJson? (j : Json) : Option (ClassicalRegister Float) := do
  match ← j.fields? ["constant_circuit", "circuits"] with
  | [constantCircuit, circuits] =>
    return ⟨← constantCircuit.withDefault? (Json.optional? Circuit.ofJson?) none,
      ← circuits.required? (Json.list? Circuit.ofJson?)⟩
  | _ => none

/-- The measurement in a stored text. -/
def ofPayload (kind : MeasurementKind) (payload : String) :
    Except ServiceError (ClassicalRegister Float) :=
  if kind ≠ .classicalRegister then .error (.kindMismatch .classicalRegister kind)
  else
    match (Json.parse? payload).bind ofJson? with
    | some m => .ok m
    | none => .error .serialization

instance : Measurement (ClassicalRegister Float) Float where
  kind _ := .classicalRegister
  constantCircuit m := m.constantCircuit
  circuits m := m.circuits
  evaluate _ _ :=
    .error (.unsupported "ClassicalRegister measurements have no expectation values")
  payload m := m.toJson.render
  ofPayload := ofPayload

end ClassicalRegister

end CircuitDispatch
