import CircuitDispatch.Angle.Basic

/-!
# Native gates

The gates that some device executes as they are, and instructions that apply
them to logical qubits.
-/

namespace CircuitDispatch

variable {R : Type}

/-- A gate that some device executes without compiling it further. -/
inductive NativeGate (R : Type) where
  /-- Half a turn about the axis at azimuth `phi` of the equator. -/
  | gpi (phi : Angle R)
  /-- A quarter turn about the axis at azimuth `phi` of the equator. -/
  | gpi2 (phi : Angle R)
  /-- The Mølmer–Sørensen gate with a phase on each qubit. -/
  | ms (phi0 phi1 theta : Angle R)
  /-- Rotation by `theta` about the axis at azimuth `phi` of the equator. -/
  | prx (theta phi : Angle R)
  | rx (theta : Angle R)
  | rz (theta : Angle R)
  /-- A quarter turn about X. -/
  | v
  | x
  | cz
  | cphaseshift (theta : Angle R)
  | xy (theta : Angle R)
  /-- The echoed cross resonance. -/
  | ecr
  deriving BEq, DecidableEq, Repr

namespace NativeGate

/-- The name of the gate in programs. -/
def name : NativeGate R → String
  | .gpi _ => "gpi"
  | .gpi2 _ => "gpi2"
  | .ms _ _ _ => "ms"
  | .prx _ _ => "prx"
  | .rx _ => "rx"
  | .rz _ => "rz"
  | .v => "v"
  | .x => "x"
  | .cz => "cz"
  | .cphaseshift _ => "cphaseshift"
  | .xy _ => "xy"
  | .ecr => "ecr"

/-- The number of qubits that the gate acts on. -/
def arity : NativeGate R → Nat
  | .ms _ _ _ => 2
  | .cz => 2
  | .cphaseshift _ => 2
  | .xy _ => 2
  | .ecr => 2
  | _ => 1

/-- The angles in the order of a program's arguments. -/
def angles : NativeGate R → List (Angle R)
  | .gpi phi => [phi]
  | .gpi2 phi => [phi]
  | .ms phi0 phi1 theta => [phi0, phi1, theta]
  | .prx theta phi => [theta, phi]
  | .rx theta => [theta]
  | .rz theta => [theta]
  | .cphaseshift theta => [theta]
  | .xy theta => [theta]
  | _ => []

/-- The gate of a name with its angles. -/
def ofName? : String → List (Angle R) → Option (NativeGate R)
  | "gpi", [phi] => some (.gpi phi)
  | "gpi2", [phi] => some (.gpi2 phi)
  | "ms", [phi0, phi1, theta] => some (.ms phi0 phi1 theta)
  | "prx", [theta, phi] => some (.prx theta phi)
  | "rx", [theta] => some (.rx theta)
  | "rz", [theta] => some (.rz theta)
  | "v", [] => some .v
  | "x", [] => some .x
  | "cz", [] => some .cz
  | "cphaseshift", [theta] => some (.cphaseshift theta)
  | "xy", [theta] => some (.xy theta)
  | "ecr", [] => some .ecr
  | _, _ => none

@[simp] theorem ofName?_name (gate : NativeGate R) :
    ofName? gate.name gate.angles = some gate := by
  cases gate <;> rfl

end NativeGate

/-- A native gate on logical qubits, first qubit first. -/
structure Instruction (R : Type) where
  gate : NativeGate R
  qubits : List Nat
  deriving BEq, DecidableEq, Repr

end CircuitDispatch
