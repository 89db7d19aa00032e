import CircuitDispatch.Angle.Layout
import CircuitDispatch.Circuit.Basic

/-!
# The layout of operations and circuits

An operation is an object whose member `type` names it and whose other members
are its fields; it is also read from an array of its name and its fields in
order. A mapping of qubits is written with its keys as texts, and only an empty
one is read back. A circuit is the array of its operations.
-/

namespace CircuitDispatch

namespace Operation

/-! ### Writing -/

/-- The names of a one-qubit gate's angles, each with the angle. -/
def singleFields : SingleGate Float → List (String × Json)
  | .rotateZ theta => [("theta", theta.toJson)]
  | .rotateX theta => [("theta", theta.toJson)]
  | .rotateY theta => [("theta", theta.toJson)]
  | .rotateXY theta phi => [("theta", theta.toJson), ("phi", phi.toJson)]
  | .gpi theta => [("theta", theta.toJson)]
  | .gpi2 theta => [("theta", theta.toJson)]
  | _ => []

/-- The names of a two-qubit gate's angles, each with the angle. -/
def pairFields : PairGate Float → List (String × Json)
  | .controlledPhaseShift theta => [("theta", theta.toJson)]
  | .xy theta => [("theta", theta.toJson)]
  | .variableMSXX theta => [("theta", theta.toJson)]
  | _ => []

/-- A mapping of qubits, with the keys as texts. -/
def mappingToJson (m : SortedMap Nat Nat) : Json :=
  .object (m.entries.map fun e => (toString e.1, .natural e.2))

/-- The fields of an operation in order. -/
def fields : Operation Float → List (String × Json)
  | .single gate qubit => ("qubit", .natural qubit) :: singleFields gate
  | .pair gate control target =>
    ("control", .natural control) :: ("target", .natural target) :: pairFields gate
  | .define _ name length isOutput =>
    [("name", .string name), ("length", .natural length), ("is_output", .bool isOutput)]
  | .inputBit name index value =>
    [("name", .string name), ("index", .natural index), ("value", .bool value)]
  | .measure qubit readout index =>
    [("qubit", .natural qubit), ("readout", .string readout), ("readout_index", .natural index)]
  | .setShots shots readout =>
    [("number_measurements", .natural shots), ("readout", .string readout)]
  | .repeatMeasurement readout shots mapping =>
    [("readout", .string readout), ("number_measurements", .natural shots)]
      ++ match mapping with
        | some m => [("qubit_mapping", mappingToJson m)]
        | none => []
  | .globalPhase phase => [("phase", phase.toJson)]

/-- The JSON value of an operation. -/
def toJson (op : Operation Float) : Json := .object (("type", .string op.tag) :: op.fields)

/-! ### Reading -/

/-- The name and the fields of an operation. -/
def body? : Json → Option (String × Json)
  | .object members =>
    match members.filter (fun m => m.1 == "type") with
    | [(_, .string tag)] => some (tag, .object (members.filter fun m => m.1 != "type"))
    | _ => none
  | .array (.string tag :: items) => some (tag, .array items)
  | _ => none

/-- An angle of an operation. -/
def angle? (field : Json.Field) : Option (Angle Float) :=
  field.required? (Angle.ofJson? .orEmptyObject)

/-- A mapping of qubits. Its keys are numbers, which the keys of an object never are, so only the
empty one has a layout. -/
def mapping? : Json → Option (SortedMap Nat Nat)
  | .object [] => some ∅
  | _ => none

/-- A gate on one qubit without angles. -/
def single? (gate : SingleGate Float) (body : Json) : Option (Operation Float) := do
  let [qubit] ← body.fields? ["qubit"] | none
  return .single gate (← qubit.required? Json.nat?)

/-- A gate on one qubit with an angle. -/
def rotation? (gate : Angle Float → SingleGate Float) (body : Json) :
    Option (Operation Float) := do
  let [qubit, theta] ← body.fields? ["qubit", "theta"] | none
  return .single (gate (← angle? theta)) (← qubit.required? Json.nat?)

/-- A gate on two qubits without angles. -/
def pair? (gate : PairGate Float) (body : Json) : Option (Operation Float) := do
  let [control, target] ← body.fields? ["control", "target"] | none
  return .pair gate (← control.required? Json.nat?) (← target.required? Json.nat?)

/-- A gate on two qubits with an angle. -/
def interaction? (gate : Angle Float → PairGate Float) (body : Json) :
    Option (Operation Float) := do
  let [control, target, theta] ← body.fields? ["control", "target", "theta"] | none
  return .pair (gate (← angle? theta)) (← control.required? Json.nat?)
    (← target.required? Json.nat?)

/-- A declaration of a register. -/
def define? (kind : RegisterKind) (body : Json) : Option (Operation Float) := do
  let [name, length, isOutput] ← body.fields? ["name", "length", "is_output"] | none
  return .define kind (← name.required? Json.text?) (← length.required? Json.nat?)
    (← isOutput.required? Json.bool?)

/-- The operation with a given name and fields. -/
def ofBody? (tag : String) (body : Json) : Option (Operation Float) :=
  match tag with
  | "RotateZ" => rotation? .rotateZ body
  | "RotateX" => rotation? .rotateX body
  | "RotateY" => rotation? .rotateY body
  | "RotateXY" => do
    let [qubit, theta, phi] ← body.fields? ["qubit", "theta", "phi"] | none
    return .single (.rotateXY (← angle? theta) (← angle? phi)) (← qubit.required? Json.nat?)
  | "PauliX" => single? .pauliX body
  | "PauliY" => single? .pauliY body
  | "PauliZ" => single? .pauliZ body
  | "SqrtPauliX" => single? .sqrtPauliX body
  | "InvSqrtPauliX" => single? .invSqrtPauliX body
  | "Hadamard" => single? .hadamard body
  | "GPi" => rotation? .gpi body
  | "GPi2" => rotation? .gpi2 body
  | "CNOT" => pair? .cnot body
  | "ControlledPauliZ" => pair? .controlledPauliZ body
  | "ControlledPhaseShift" => interaction? .controlledPhaseShift body
  | "XY" => interaction? .xy body
  | "MolmerSorensenXX" => pair? .molmerSorensenXX body
  | "VariableMSXX" => interaction? .variableMSXX body
  | "EchoCrossResonance" => pair? .echoCrossResonance body
  | "DefinitionBit" => define? .bit body
  | "DefinitionFloat" => define? .float body
  | "DefinitionComplex" => define? .complex body
  | "InputBit" => do
    let [name, index, value] ← body.fields? ["name", "index", "value"] | none
    return .inputBit (← name.required? Json.text?) (← index.required? Json.nat?)
      (← value.required? Json.bool?)
  | "MeasureQubit" => do
    let [qubit, readout, index] ← body.fields? ["qubit", "readout", "readout_index"] | none
    return .measure (← qubit.required? Json.nat?) (← readout.required? Json.text?)
      (← index.required? Json.nat?)
  | "PragmaSetNumberOfMeasurements" => do
    let [shots, readout] ← body.fields? ["number_measurements", "readout"] | none
    return .setShots (← shots.required? Json.nat?) (← readout.required? Json.text?)
  | "PragmaRepeatedMeasurement" => do
    let [readout, shots, mapping] ←
      body.fields? ["readout", "number_measurements", "qubit_mapping"] | none
    return .repeatMeasurement (← readout.required? Json.text?) (← shots.required? Json.nat?)
      (← mapping.withDefault? (Json.optional? mapping?) none)
  | "PragmaGlobalPhase" => do
    let [phase] ← body.fields? ["phase"] | none
    return .globalPhase (← angle? phase)
  | _ => none

/-- The operation that a JSON value is the layout of. Nothing in it may be unreadable, not even a
member that is skipped. -/
def ofJson? (j : Json) : Option (Operation Float) :=
  if j.readable then
    match body? j with
    | some (tag, body) => ofBody? tag body
    | none => none
  else none

end Operation

namespace Circuit

/-- The JSON value of a circuit. -/
def toJson (c : Circuit Float) : Json := Json.ofList Operation.toJson c.operations

/-- The circuit that a JSON value is the layout of. Its operations are not checked. -/
def ofJson? (j : Json) : Option (Circuit Float) := (j.list? Operation.ofJson?).map Circuit.mk

end Circuit

end CircuitDispatch
