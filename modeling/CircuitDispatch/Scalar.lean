import CircuitDispatch.Decimal.Style

/-!
# Scalars

Angles, gates and matrices are written over a type of scalars with named
operations, so that one definition serves both running (`Float`) and exact
reasoning (the real numbers, or any ring with the facts a proof needs). The
classes hold operations only; a law is a hypothesis of the theorem that uses it.
Doubles are written with their shortest digits, never with an exponent.
-/

namespace CircuitDispatch

/-- Numbers that angles are made of. -/
class Scalar (R : Type) extends Add R, Sub R, Mul R, Div R, Neg R where
  /-- The scalar of a natural number. -/
  ofNat : Nat → R
  /-- The half turn `π`. -/
  pi : R
  /-- Whether a scalar is exactly zero, so that nothing can be divided by it. -/
  isZero : R → Bool
  /-- Whether a scalar is too small to count as a rotation. -/
  negligible : R → Bool
  /-- How a scalar is written in angles and programs. -/
  text : R → String

/-- Scalars with the functions that gate matrices are made of. -/
class Trigonometric (R : Type) extends Scalar R where
  /-- The sine. -/
  sin : R → R
  /-- The cosine. -/
  cos : R → R
  /-- The square root of one half. -/
  sqrtHalf : R

/-- Angles below this magnitude count as zero. -/
def angleTolerance : Float := 1e-12

instance : Scalar Float where
  ofNat n := OfScientific.ofScientific n false 0
  pi := 3.141592653589793
  isZero x := x == 0
  negligible x := x.abs < angleTolerance
  text := Decimal.Style.plain.render

instance : Trigonometric Float where
  sin := Float.sin
  cos := Float.cos
  sqrtHalf := 0.7071067811865476

end CircuitDispatch
