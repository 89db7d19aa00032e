import CircuitDispatch.Scalar

/-!
# Amplitudes

The complex numbers that matrices of gates are made of, as pairs of scalars.
-/

namespace CircuitDispatch

/-- The complex number `re + i · im`. -/
structure Amplitude (R : Type) where
  re : R
  im : R
  deriving DecidableEq, Repr

namespace Amplitude

variable {R : Type}

section Scalar

variable [Scalar R]

instance : Add (Amplitude R) where
  add a b := ⟨a.re + b.re, a.im + b.im⟩

instance : Sub (Amplitude R) where
  sub a b := ⟨a.re - b.re, a.im - b.im⟩

instance : Neg (Amplitude R) where
  neg a := ⟨-a.re, -a.im⟩

instance : Mul (Amplitude R) where
  mul a b := ⟨a.re * b.re - a.im * b.im, a.re * b.im + a.im * b.re⟩

instance : Div (Amplitude R) where
  div a b :=
    let square := b.re * b.re + b.im * b.im
    ⟨(a.re * b.re + a.im * b.im) / square, (a.im * b.re - a.re * b.im) / square⟩

/-- A scalar as an amplitude. -/
def ofReal (x : R) : Amplitude R := ⟨x, Scalar.ofNat 0⟩

/-- Zero. -/
def zero : Amplitude R := ofReal (Scalar.ofNat 0)

/-- One. -/
def one : Amplitude R := ofReal (Scalar.ofNat 1)

/-- The imaginary unit. -/
def i : Amplitude R := ⟨Scalar.ofNat 0, Scalar.ofNat 1⟩

end Scalar

/-- The amplitude of a given size and phase. -/
def polar [Trigonometric R] (size phase : R) : Amplitude R :=
  ⟨size * Trigonometric.cos phase, size * Trigonometric.sin phase⟩

/-- A phase of size one. -/
def phase [Trigonometric R] (angle : R) : Amplitude R := polar (Scalar.ofNat 1) angle

end Amplitude

end CircuitDispatch
