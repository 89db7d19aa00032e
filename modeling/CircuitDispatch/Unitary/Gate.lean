import CircuitDispatch.Native.Lowering
import CircuitDispatch.Unitary.Amplitude

/-!
# Matrices of gates

The matrices of one-qubit and two-qubit gates. In a two-qubit matrix the first
qubit is the more significant one.
-/

namespace CircuitDispatch.Unitary

/-- A matrix on one qubit, row by row. -/
structure Single (α : Type) where
  a : α
  b : α
  c : α
  d : α

/-- A matrix on two qubits, row by row. -/
structure Pair (α : Type) where
  rows : Vector (Vector α 4) 4

/-- Applies a function to every entry. -/
def Single.map {α β : Type} (f : α → β) (m : Single α) : Single β := ⟨f m.a, f m.b, f m.c, f m.d⟩

variable {R : Type} [Trigonometric R]

open Amplitude Trigonometric

/-- Half of an angle. -/
def half (x : R) : R := x / Scalar.ofNat 2

namespace Single

/-- The Pauli matrix X. -/
def x : Single (Amplitude R) := ⟨zero, one, one, zero⟩

/-- The Pauli matrix Y. -/
def y : Single (Amplitude R) := ⟨zero, -Amplitude.i, Amplitude.i, zero⟩

/-- The Pauli matrix Z. -/
def z : Single (Amplitude R) := ⟨one, zero, zero, -one⟩

/-- The Hadamard matrix. -/
def h : Single (Amplitude R) :=
  let s := ofReal sqrtHalf
  ⟨s, s, s, -s⟩

/-- The square root of X. -/
def v : Single (Amplitude R) :=
  let p : Amplitude R := ⟨half (Scalar.ofNat 1), half (Scalar.ofNat 1)⟩
  let m : Amplitude R := ⟨half (Scalar.ofNat 1), -half (Scalar.ofNat 1)⟩
  ⟨p, m, m, p⟩

/-- Rotation by `theta` about the axis at azimuth `phi` of the equator. -/
def prx (theta phi : R) : Single (Amplitude R) :=
  let c := ofReal (cos (half theta))
  let s := sin (half theta)
  ⟨c, -Amplitude.i * polar s (-phi), -Amplitude.i * polar s phi, c⟩

/-- Rotation about X. -/
def rx (theta : R) : Single (Amplitude R) := prx theta (Scalar.ofNat 0)

/-- Rotation about Y. -/
def ry (theta : R) : Single (Amplitude R) :=
  let c := ofReal (cos (half theta))
  let s := ofReal (sin (half theta))
  ⟨c, -s, s, c⟩

/-- Rotation about Z. -/
def rz (theta : R) : Single (Amplitude R) :=
  ⟨phase (half (-theta)), zero, zero, phase (half theta)⟩

/-- Half a turn about the axis at azimuth `phi` of the equator. -/
def gpi (phi : R) : Single (Amplitude R) := ⟨zero, phase (-phi), phase phi, zero⟩

/-- A quarter turn about the axis at azimuth `phi` of the equator. -/
def gpi2 (phi : R) : Single (Amplitude R) :=
  let s := ofReal sqrtHalf
  ⟨s, -Amplitude.i * s * phase (-phi), -Amplitude.i * s * phase phi, s⟩

end Single

namespace Pair

/-- The matrix of 16 entries. -/
def ofRows {α : Type} (r0 r1 r2 r3 : Vector α 4) : Pair α := ⟨#v[r0, r1, r2, r3]⟩

/-- A diagonal matrix. -/
def diagonal (a b c d : Amplitude R) : Pair (Amplitude R) :=
  ofRows #v[a, zero, zero, zero] #v[zero, b, zero, zero] #v[zero, zero, c, zero]
    #v[zero, zero, zero, d]

/-- The controlled X. -/
def cnot : Pair (Amplitude R) :=
  ofRows #v[one, zero, zero, zero] #v[zero, one, zero, zero] #v[zero, zero, zero, one]
    #v[zero, zero, one, zero]

/-- The controlled Z. -/
def cz : Pair (Amplitude R) := diagonal one one one (-one)

/-- The controlled phase. -/
def cphaseshift (theta : R) : Pair (Amplitude R) := diagonal one one one (phase theta)

/-- The exchange of excitations by an angle. -/
def xy (theta : R) : Pair (Amplitude R) :=
  let c := ofReal (cos (half theta))
  let x := sin (half theta)
  let s : Amplitude R := ⟨Amplitude.i.re * x, Amplitude.i.im * x⟩
  ofRows #v[one, zero, zero, zero] #v[zero, c, s, zero] #v[zero, s, c, zero]
    #v[zero, zero, zero, one]

/-- The Mølmer–Sørensen gate. -/
def ms (phi0 phi1 theta : R) : Pair (Amplitude R) :=
  let c := ofReal (cos (half theta))
  let s := sin (half theta)
  let flip (angle : R) : Amplitude R := -Amplitude.i * polar s angle
  ofRows #v[c, zero, zero, flip (-(phi0 + phi1))] #v[zero, c, flip (-(phi0 - phi1)), zero]
    #v[zero, flip (phi0 - phi1), c, zero] #v[flip (phi0 + phi1), zero, zero, c]

/-- The echoed cross resonance. -/
def ecr : Pair (Amplitude R) :=
  let s := ofReal sqrtHalf
  let t := Amplitude.i * s
  ofRows #v[zero, s, zero, t] #v[s, zero, -t, zero] #v[zero, t, zero, s] #v[-t, zero, s, zero]

end Pair

/-- The quarter turn as a number. -/
def quarter : R := half Scalar.pi

/-- The matrix of a circuit's gate on one qubit. -/
def ofSingleGate : SingleGate R → Except CompileError (Single (Amplitude R))
  | .rotateZ theta => do return .rz (← theta.number)
  | .rotateX theta => do return .rx (← theta.number)
  | .rotateY theta => do return .ry (← theta.number)
  | .rotateXY theta phi => do return .prx (← theta.number) (← phi.number)
  | .pauliX => .ok .x
  | .pauliY => .ok .y
  | .pauliZ => .ok .z
  | .sqrtPauliX => .ok (.rx quarter)
  | .invSqrtPauliX => .ok (.rx (half (-Scalar.pi)))
  | .hadamard => .ok .h
  | .gpi theta => do return .gpi (← theta.number)
  | .gpi2 theta => do return .gpi2 (← theta.number)

/-- The matrix of a circuit's gate on two qubits. -/
def ofPairGate : PairGate R → Except CompileError (Pair (Amplitude R))
  | .cnot => .ok .cnot
  | .controlledPauliZ => .ok .cz
  | .controlledPhaseShift theta => do return .cphaseshift (← theta.number)
  | .xy theta => do return .xy (← theta.number)
  | .molmerSorensenXX => .ok (.ms (Scalar.ofNat 0) (Scalar.ofNat 0) quarter)
  | .variableMSXX theta => do return .ms (Scalar.ofNat 0) (Scalar.ofNat 0) (← theta.number)
  | .echoCrossResonance => .ok .ecr

/-- The matrix of a native gate. -/
def ofNativeGate :
    NativeGate R → Except CompileError (Single (Amplitude R) ⊕ Pair (Amplitude R))
  | .gpi phi => do return .inl (.gpi (← phi.number))
  | .gpi2 phi => do return .inl (.gpi2 (← phi.number))
  | .ms phi0 phi1 theta => do
    return .inr (.ms (← phi0.number) (← phi1.number) (← theta.number))
  | .prx theta phi => do return .inl (.prx (← theta.number) (← phi.number))
  | .rx theta => do return .inl (.rx (← theta.number))
  | .rz theta => do return .inl (.rz (← theta.number))
  | .v => .ok (.inl .v)
  | .x => .ok (.inl .x)
  | .cz => .ok (.inr .cz)
  | .cphaseshift theta => do return .inr (.cphaseshift (← theta.number))
  | .xy theta => do return .inr (.xy (← theta.number))
  | .ecr => .ok (.inr .ecr)

end CircuitDispatch.Unitary
