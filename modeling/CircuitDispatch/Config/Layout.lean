import CircuitDispatch.Config.Basic

/-!
# The layout of configurations

A configuration is a record all of whose fields may be left out. Reading checks
no values.
-/

namespace CircuitDispatch

namespace FamilyChoice

/-- The JSON value of a choice. -/
def toJson : FamilyChoice → Json
  | .auto => .string "auto"
  | .force family => .tagged "force" family.toJson

/-- The choice that a JSON value is the layout of. -/
def ofJson? (j : Json) : Option FamilyChoice :=
  match j.variant? with
  | some ("auto", payload) => if Json.isNoPayload payload then some .auto else none
  | some ("force", some payload) => (Family.ofJson? payload).map .force
  | _ => none

end FamilyChoice

namespace Config

/-- The JSON value of a configuration. -/
def toJson (c : Config) : Json :=
  .object [("device", .string c.device), ("verbatim_mode", .bool c.verbatimMode),
    ("batch_mode", .bool c.batchMode), ("allow_hardware", .bool c.allowHardware),
    ("max_shots", .natural c.maxShots), ("max_circuit_length", .natural c.maxCircuitLength),
    ("translation", c.family.toJson)]

/-- The names of the fields in order. -/
def fieldNames : List String :=
  ["device", "verbatim_mode", "batch_mode", "allow_hardware", "max_shots", "max_circuit_length",
    "translation"]

/-- The configuration that a JSON value is the layout of. -/
def ofJson? (j : Json) : Option Config := do
  match ← j.fields? fieldNames with
  | [device, verbatimMode, batchMode, allowHardware, maxShots, maxCircuitLength, family] =>
    return {
      device := ← device.withDefault? Json.text? standard.device
      verbatimMode := ← verbatimMode.withDefault? Json.bool? standard.verbatimMode
      batchMode := ← batchMode.withDefault? Json.bool? standard.batchMode
      allowHardware := ← allowHardware.withDefault? Json.bool? standard.allowHardware
      maxShots := ← maxShots.withDefault? Json.nat? standard.maxShots
      maxCircuitLength := ← maxCircuitLength.withDefault? Json.nat? standard.maxCircuitLength
      family := ← family.withDefault? FamilyChoice.ofJson? standard.family
    }
  | _ => none

end Config

end CircuitDispatch
