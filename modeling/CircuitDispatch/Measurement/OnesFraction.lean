import CircuitDispatch.Measurement.Basic

/-!
# Fractions of ones

A measurement that computes one value for each register of bits: the fraction of
ones among all its bits, and zero for a register without bits.
-/

namespace CircuitDispatch

/-- The measurement of the fractions of ones. -/
structure OnesFraction where
  circuits : List (Circuit Float)
  constantCircuit : Option (Circuit Float)
  /-- A reason why there are no values, to try out how a failure is handled. -/
  failure : Option String

namespace OnesFraction

/-- The JSON value of a measurement. -/
def toJson (m : OnesFraction) : Json :=
  .object [("circuits", Json.ofList Circuit.toJson m.circuits),
    ("constant_circuit", Json.ofOption Circuit.toJson m.constantCircuit),
    ("fail", Json.ofOption Json.string m.failure)]

/-- The measurement that a JSON value is the layout of. -/
def ofJson? (j : Json) : Option OnesFraction := do
  match ← j.fields? ["circuits", "constant_circuit", "fail"] with
  | [circuits, constantCircuit, failure] =>
    return ⟨← circuits.required? (Json.list? Circuit.ofJson?),
      ← constantCircuit.nullable? Circuit.ofJson?, ← failure.nullable? Json.text?⟩
  | _ => none

/-- The fraction of ones in rows of bits. -/
def fraction (rows : List (List Bool)) : Float :=
  let bits := rows.flatten
  if bits.isEmpty then 0 else Float.ofNat (bits.count true) / Float.ofNat bits.length

/-- The measurement in a stored text. -/
def ofPayload (kind : MeasurementKind) (payload : String) : Except ServiceError OnesFraction :=
  if kind ≠ .pauliZProduct then .error (.kindMismatch .pauliZProduct kind)
  else
    match (Json.parse? payload).bind ofJson? with
    | some m => .ok m
    | none => .error .serialization

instance : Measurement OnesFraction Float where
  kind _ := .pauliZProduct
  constantCircuit m := m.constantCircuit
  circuits m := m.circuits
  evaluate m registers :=
    match m.failure with
    | some reason => .error (.backend reason)
    | none => .ok (registers.bit.mapValues fraction)
  payload m := m.toJson.render
  ofPayload := ofPayload

end OnesFraction

end CircuitDispatch
