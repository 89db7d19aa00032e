import CircuitDispatch.Proofs.Scalar.Exact

/-!
# The ring of amplitudes

Over exact scalars the amplitudes are a commutative ring, `phase` turns sums of
angles into products (`phase_add`), and the squared modulus `normSq` is
multiplicative, so the numbers of modulus one (`IsPhase`) are closed under
products and contain every `phase`. With the conjugate as `star` they are a star
ring, in which the squared modulus is a number times its conjugate (`mul_star_self`).
-/

namespace CircuitDispatch

namespace Amplitude

variable {R : Type} [ExactScalar R]

open Trigonometric

omit [ExactScalar R] in
@[ext] theorem ext {a b : Amplitude R} (hre : a.re = b.re) (him : a.im = b.im) : a = b := by
  cases a; cases b; cases hre; cases him; rfl

section Parts

variable (a b : Amplitude R)

@[simp] theorem add_re : (a + b).re = a.re + b.re := rfl

@[simp] theorem add_im : (a + b).im = a.im + b.im := rfl

@[simp] theorem neg_re : (-a).re = -a.re := rfl

@[simp] theorem neg_im : (-a).im = -a.im := rfl

@[simp] theorem mul_re : (a * b).re = a.re * b.re - a.im * b.im := rfl

@[simp] theorem mul_im : (a * b).im = a.re * b.im + a.im * b.re := rfl

end Parts

instance : Zero (Amplitude R) := ⟨zero⟩

instance : One (Amplitude R) := ⟨one⟩

theorem zero_def : (zero : Amplitude R) = 0 := rfl

theorem one_def : (one : Amplitude R) = 1 := rfl

@[simp] theorem zero_re : (0 : Amplitude R).re = 0 := ExactScalar.ofNat_zero

@[simp] theorem zero_im : (0 : Amplitude R).im = 0 := ExactScalar.ofNat_zero

@[simp] theorem one_re : (1 : Amplitude R).re = 1 := ExactScalar.ofNat_one

@[simp] theorem one_im : (1 : Amplitude R).im = 0 := ExactScalar.ofNat_zero

-- each law is two laws of the scalars, one for the real and one for the imaginary parts
instance : CommRing (Amplitude R) where
  add_assoc a b c := by ext <;> simp [add_assoc]
  zero_add a := by ext <;> simp
  add_zero a := by ext <;> simp
  add_comm a b := by ext <;> simp [add_comm]
  neg_add_cancel a := by ext <;> simp
  sub_eq_add_neg a b := by
    ext
    · exact sub_eq_add_neg a.re b.re
    · exact sub_eq_add_neg a.im b.im
  mul_assoc a b c := by ext <;> simp <;> ring
  one_mul a := by ext <;> simp
  mul_one a := by ext <;> simp
  zero_mul a := by ext <;> simp
  mul_zero a := by ext <;> simp
  left_distrib a b c := by ext <;> simp <;> ring
  right_distrib a b c := by ext <;> simp <;> ring
  mul_comm a b := by ext <;> simp <;> ring
  nsmul := nsmulRec
  zsmul := zsmulRec

/-! ### Squared modulus -/

/-- The squared modulus. -/
def normSq (a : Amplitude R) : R := a.re * a.re + a.im * a.im

@[simp] theorem normSq_one : (1 : Amplitude R).normSq = 1 := by
  simp [normSq]

theorem normSq_mul (a b : Amplitude R) : (a * b).normSq = a.normSq * b.normSq := by
  simp only [normSq, mul_re, mul_im]
  ring

/-! ### Conjugates -/

/-- The conjugate. -/
instance : Star (Amplitude R) := ⟨fun a => ⟨a.re, -a.im⟩⟩

@[simp] theorem star_re (a : Amplitude R) : (star a).re = a.re := rfl

@[simp] theorem star_im (a : Amplitude R) : (star a).im = -a.im := rfl

instance : StarRing (Amplitude R) where
  star_involutive a := by ext <;> simp
  star_mul a b := by ext <;> simp <;> ring
  star_add a b := by ext <;> simp [add_comm]

theorem mul_star_self (a : Amplitude R) : a * star a = ofReal a.normSq := by
  ext
  · simp only [mul_re, star_re, star_im, normSq, ofReal]
    ring
  · simp only [mul_im, star_re, star_im, ofReal, ExactScalar.ofNat_zero]
    ring

/-! ### Numbers of modulus one -/

/-- A number of modulus one. -/
def IsPhase (w : Amplitude R) : Prop := w.normSq = 1

theorem IsPhase.one : (1 : Amplitude R).IsPhase := normSq_one

theorem IsPhase.mul {v w : Amplitude R} (hv : v.IsPhase) (hw : w.IsPhase) :
    (v * w).IsPhase := by
  unfold IsPhase at *
  rw [normSq_mul, hv, hw, mul_one]

/-- A factor of modulus one does not show in the squared modulus. -/
theorem IsPhase.normSq_mul {w : Amplitude R} (hw : w.IsPhase) (a : Amplitude R) :
    (w * a).normSq = a.normSq := by
  rw [Amplitude.normSq_mul, show w.normSq = 1 from hw, one_mul]

theorem IsPhase.mul_star {w : Amplitude R} (hw : w.IsPhase) : w * star w = 1 := by
  rw [mul_star_self, show w.normSq = 1 from hw]
  ext <;> simp [ofReal]

theorem IsPhase.conjugate {w : Amplitude R} (hw : w.IsPhase) : (star w).IsPhase := by
  change w.re * w.re + -w.im * -w.im = 1
  rw [neg_mul_neg]
  exact hw

/-- A number of modulus one can be divided by: its conjugate is its inverse. -/
theorem IsPhase.exists_inverse {w : Amplitude R} (hw : w.IsPhase) :
    ∃ w' : Amplitude R, w'.IsPhase ∧ w' * w = 1 :=
  ⟨star w, hw.conjugate, by rw [mul_comm, hw.mul_star]⟩

/-! ### Phases -/

@[simp] theorem phase_re (x : R) : (phase x).re = cos x := by
  change Scalar.ofNat 1 * cos x = cos x
  rw [ExactScalar.ofNat_one, one_mul]

@[simp] theorem phase_im (x : R) : (phase x).im = sin x := by
  change Scalar.ofNat 1 * sin x = sin x
  rw [ExactScalar.ofNat_one, one_mul]

@[simp] theorem phase_zero : phase (0 : R) = 1 := by
  ext <;> simp [ExactScalar.cos_zero]

/-- **Phases of sums.** Angles add where phases multiply. -/
theorem phase_add (x y : R) : phase (x + y) = phase x * phase y := by
  ext
  · simp [ExactScalar.cos_add]
  · simp only [phase_im, mul_im, phase_re, ExactScalar.sin_add]
    ring

theorem isPhase_phase (x : R) : (phase x).IsPhase := by
  simp [IsPhase, normSq, ExactScalar.cos_sq_add_sin_sq]

/-- The conjugate of a phase is the phase of the opposite angle. -/
@[simp] theorem star_phase (x : R) : star (phase x) = phase (-x) := by
  ext
  · simp [ExactScalar.cos_neg]
  · simp [ExactScalar.sin_neg]

/-- A number in polar form is its size times its phase. -/
theorem polar_eq (s x : R) : polar s x = ofReal s * phase x := by
  ext
  · simp [polar, ofReal]
  · simp [polar, ofReal]

end Amplitude

end CircuitDispatch
