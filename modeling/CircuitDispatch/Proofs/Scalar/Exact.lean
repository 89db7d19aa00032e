import Mathlib
import CircuitDispatch.Unitary.Gate

/-!
# Exact scalars

`ExactScalar` collects the laws under which angles and gates are reasoned about:
the scalars form a nontrivial commutative ring in which everything can be halved,
zero is recognised exactly, and the sine and cosine satisfy the laws of addition
and take the expected values at an eighth of a turn. Nothing is assumed about
`negligible` and `text`: the tolerance and the spelling of numbers stay arbitrary.

The real numbers with their sine and cosine are an instance, with the tolerance
that the floating-point instance has.
-/

namespace CircuitDispatch

open Trigonometric CircuitDispatch.Unitary

/-- **Exact scalars.** A commutative ring with halves and an exact zero test, whose sine and cosine
satisfy the laws of addition. -/
class ExactScalar (R : Type) extends Trigonometric R, CommRing R where
  /-- One and zero differ. -/
  zero_ne_one : (0 : R) ≠ 1
  /-- The scalar of a natural number is its image in the ring. -/
  ofNat_eq_cast (k : Nat) : (Scalar.ofNat k : R) = (k : R)
  /-- Two halves are a whole. -/
  half_add_half (x : R) : half x + half x = x
  /-- Zero is recognised exactly. -/
  isZero_iff (x : R) : Scalar.isZero x = true ↔ x = 0
  cos_zero : cos (0 : R) = 1
  cos_neg (x : R) : cos (-x) = cos x
  sin_neg (x : R) : sin (-x) = -sin x
  cos_add (x y : R) : cos (x + y) = cos x * cos y - sin x * sin y
  sin_add (x y : R) : sin (x + y) = sin x * cos y + cos x * sin y
  /-- An eighth of a turn has equal sine and cosine. -/
  cos_eighth : cos (half (half (Scalar.pi : R))) = sqrtHalf
  sin_eighth : sin (half (half (Scalar.pi : R))) = sqrtHalf
  /-- `sqrtHalf` squares to one half. -/
  sqrtHalf_mul_self : (sqrtHalf : R) * sqrtHalf = half 1

namespace ExactScalar

variable {R : Type} [ExactScalar R]

@[simp] theorem ofNat_zero : (Scalar.ofNat 0 : R) = 0 := by
  rw [ofNat_eq_cast, Nat.cast_zero]

@[simp] theorem ofNat_one : (Scalar.ofNat 1 : R) = 1 := by
  rw [ofNat_eq_cast, Nat.cast_one]

/-! ### Halves -/

/-- **A half is unique**: what doubles to `x` is the half of `x`. -/
theorem half_eq_of_add_self {x y : R} (h : y + y = x) : half x = y := by
  -- `half 1` is the inverse of two, so doubling can be undone
  have hx : half x + half x = x := half_add_half x
  have h1 : half (1 : R) + half 1 = 1 := half_add_half 1
  calc half x = half x * (half 1 + half 1) := by rw [h1, mul_one]
    _ = half 1 * (half x + half x) := by ring
    _ = half 1 * (y + y) := by rw [hx, h]
    _ = y * (half 1 + half 1) := by ring
    _ = y := by rw [h1, mul_one]

@[simp] theorem half_zero : half (0 : R) = 0 := half_eq_of_add_self (add_zero 0)

@[simp] theorem half_neg (x : R) : half (-x) = -half x :=
  half_eq_of_add_self (by rw [← neg_add, half_add_half])

theorem half_add (x y : R) : half (x + y) = half x + half y := by
  refine half_eq_of_add_self ?_
  have hx : half x + half x = x := half_add_half x
  have hy : half y + half y = y := half_add_half y
  calc half x + half y + (half x + half y) = half x + half x + (half y + half y) := by ring
    _ = x + y := by rw [hx, hy]

/-- Two is not recognised as zero. -/
theorem isZero_two : Scalar.isZero (Scalar.ofNat 2 : R) = false := by
  rw [Bool.eq_false_iff, ne_eq, isZero_iff, ofNat_eq_cast]
  -- if two were zero, so would be the half of one twice, which is one
  intro h
  have h1 : half (1 : R) + half 1 = 1 := half_add_half 1
  refine zero_ne_one (R := R) ?_
  calc (0 : R) = half 1 * ((2 : Nat) : R) := by rw [h, mul_zero]
    _ = half 1 + half 1 := by push_cast; ring
    _ = 1 := h1

/-! ### Sine and cosine -/

@[simp] theorem sin_zero : sin (0 : R) = 0 := by
  -- the sine of zero is its own negative
  have h : sin (0 : R) = -sin 0 := by
    conv_lhs => rw [← neg_zero]
    exact sin_neg 0
  have hs : half (0 : R) = sin 0 := half_eq_of_add_self (by linear_combination h)
  rw [← hs, half_zero]

theorem cos_sq_add_sin_sq (x : R) : cos x * cos x + sin x * sin x = 1 := by
  have h : cos (x + -x) = cos x * cos (-x) - sin x * sin (-x) := cos_add x (-x)
  rw [add_neg_cancel, cos_zero, cos_neg, sin_neg] at h
  linear_combination -h

theorem cos_half_pi : cos (half (Scalar.pi : R)) = 0 := by
  rw [← half_add_half (half (Scalar.pi : R)), cos_add, cos_eighth, sin_eighth, sub_self]

theorem sin_half_pi : sin (half (Scalar.pi : R)) = 1 := by
  rw [← half_add_half (half (Scalar.pi : R)), sin_add, cos_eighth, sin_eighth,
    sqrtHalf_mul_self, half_add_half]

end ExactScalar

/-! ### The real numbers -/

/-- The tolerance is that of the floating-point scalars. Real numbers have no spelling, and no
statement looks at one. -/
noncomputable instance : Trigonometric ℝ where
  div x y := x / y
  ofNat k := (k : ℝ)
  pi := Real.pi
  isZero x := @decide (x = 0) (Classical.propDecidable _)
  negligible x := @decide (|x| < 1e-12) (Classical.propDecidable _)
  text _ := ""
  sin := Real.sin
  cos := Real.cos
  sqrtHalf := Real.sqrt 2 / 2

noncomputable instance : ExactScalar ℝ where
  zero_ne_one := zero_ne_one
  ofNat_eq_cast _ := rfl
  half_add_half x := by
    change x / ((2 : Nat) : ℝ) + x / ((2 : Nat) : ℝ) = x
    push_cast
    ring
  isZero_iff x := by
    change @decide (x = 0) (Classical.propDecidable _) = true ↔ x = 0
    exact decide_eq_true_iff
  cos_zero := Real.cos_zero
  cos_neg := Real.cos_neg
  sin_neg := Real.sin_neg
  cos_add := Real.cos_add
  sin_add := Real.sin_add
  cos_eighth := by
    change Real.cos (Real.pi / ((2 : Nat) : ℝ) / ((2 : Nat) : ℝ)) = Real.sqrt 2 / 2
    rw [← Real.cos_pi_div_four]
    congr 1
    push_cast
    ring
  sin_eighth := by
    change Real.sin (Real.pi / ((2 : Nat) : ℝ) / ((2 : Nat) : ℝ)) = Real.sqrt 2 / 2
    rw [← Real.sin_pi_div_four]
    congr 1
    push_cast
    ring
  sqrtHalf_mul_self := by
    change Real.sqrt 2 / 2 * (Real.sqrt 2 / 2) = 1 / ((2 : Nat) : ℝ)
    have h : Real.sqrt 2 * Real.sqrt 2 = 2 := Real.mul_self_sqrt (by norm_num)
    push_cast
    linear_combination h / 4

end CircuitDispatch
