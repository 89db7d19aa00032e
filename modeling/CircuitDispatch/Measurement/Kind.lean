import CircuitDispatch.Json.Layout

/-!
# Kinds of measurements

The kind is stored beside a measurement that is written out, so that a reader
knows what the text is the layout of.
-/

namespace CircuitDispatch

/-- The kind of a measurement. -/
inductive MeasurementKind where
  /-- Registers are returned as they are. -/
  | classicalRegister
  | pauliZProduct
  | cheatedPauliZProduct
  | cheated
  deriving DecidableEq, Repr

namespace MeasurementKind

/-- All kinds. -/
def all : List MeasurementKind :=
  [.classicalRegister, .pauliZProduct, .cheatedPauliZProduct, .cheated]

/-- The name of a kind. -/
def name : MeasurementKind → String
  | .classicalRegister => "ClassicalRegister"
  | .pauliZProduct => "PauliZProduct"
  | .cheatedPauliZProduct => "CheatedPauliZProduct"
  | .cheated => "Cheated"

/-- Whether the result is the registers and not values computed from them. -/
def isRegisterOnly (kind : MeasurementKind) : Bool := kind = .classicalRegister

/-- The JSON value of a kind. -/
def toJson (kind : MeasurementKind) : Json := .string kind.name

/-- The kind that a JSON value is the layout of. -/
def ofJson? (j : Json) : Option MeasurementKind :=
  j.oneOf? (all.map fun kind => (kind.name, kind))

end MeasurementKind

end CircuitDispatch
