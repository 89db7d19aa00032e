import CircuitDispatch.Circuit.Basic
import CircuitDispatch.Registers.Layout

/-!
# Metadata of circuits

What has to be known about a circuit to make registers of its samples: the name
of the readout, the bits of the readout that are set without a measurement, and
the registers of numbers that are declared as outputs.
-/

namespace CircuitDispatch

/-- The bits of a readout that no measurement writes. -/
structure StaticBits where
  registerLength : Nat
  /-- The value of every position; one that is not set is `false`. -/
  values : List Bool
  deriving BEq, DecidableEq, Repr

namespace StaticBits

/-- The static bits of set positions, of which the later ones count, in a register of a declared
length. The register is longer if a position asks for it. -/
def ofInputs (declared : Option Nat) (inputs : List (Nat × Bool)) : StaticBits :=
  let needed := (inputs.map fun input => input.1 + 1).foldl max 0
  let length := max (declared.getD needed) needed
  ⟨length, inputs.foldl (fun values (index, value) => values.set index value)
    (List.replicate length false)⟩

/-- The JSON value of static bits. -/
def toJson (s : StaticBits) : Json :=
  .object [("register_length", .natural s.registerLength), ("values", Json.ofList .bool s.values)]

/-- The static bits that a JSON value is the layout of. -/
def ofJson? (j : Json) : Option StaticBits := do
  match ← j.fields? ["register_length", "values"] with
  | [registerLength, values] =>
    return ⟨← registerLength.required? Json.nat?, ← values.required? (Json.list? Json.bool?)⟩
  | _ => none

end StaticBits

/-- What making registers of a circuit's samples needs. -/
structure CircuitMetadata (R : Type) where
  readoutName : String
  staticBits : Option StaticBits
  /-- The registers of numbers that are declared as outputs. -/
  floatRegisters : RegisterMap R
  /-- The registers of complex numbers that are declared as outputs. -/
  complexRegisters : RegisterMap (R × R)
  deriving BEq, DecidableEq

namespace CircuitMetadata

/-- The names of the output registers of a kind. -/
def outputs {R : Type} (kind : RegisterKind) (c : Circuit R) : List String :=
  c.operations.filterMap fun
    | .define declared name _ true => if declared = kind then some name else none
    | _ => none

/-- Output registers without rows. -/
def emptyRegisters {Value : Type} (names : List String) : RegisterMap Value :=
  .ofList (names.map fun name => (name, []))

/-- The metadata of a circuit that is read out into a register. -/
def ofCircuit {R : Type} (c : Circuit R) (readout : String) : CircuitMetadata R :=
  let inputs := c.inputBits readout
  { readoutName := readout
    staticBits :=
      if inputs.isEmpty then none
      else some (.ofInputs (c.bitRegisterLength? readout) inputs)
    floatRegisters := emptyRegisters (outputs .float c)
    complexRegisters := emptyRegisters (outputs .complex c) }

/-- The JSON value of metadata, without static bits if there are none. -/
def toJson (m : CircuitMetadata Float) : Json :=
  .object ([("readout_name", Json.string m.readoutName)]
    ++ (match m.staticBits with
      | some bits => [("static_bits", bits.toJson)]
      | none => [])
    ++ [("float_registers", m.floatRegisters.toJson .ofFloat),
      ("complex_registers", m.complexRegisters.toJson complexToJson)])

/-- The metadata that a JSON value is the layout of. -/
def ofJson? (j : Json) : Option (CircuitMetadata Float) := do
  match ← j.fields? ["readout_name", "static_bits", "float_registers", "complex_registers"] with
  | [readoutName, staticBits, floatRegisters, complexRegisters] =>
    return ⟨← readoutName.required? Json.text?,
      ← staticBits.withDefault? (Json.optional? StaticBits.ofJson?) none,
      ← floatRegisters.withDefault? (RegisterMap.ofJson? Json.float?) ∅,
      ← complexRegisters.withDefault? (RegisterMap.ofJson? complexOfJson?) ∅⟩
  | _ => none

end CircuitMetadata

end CircuitDispatch
