import CircuitDispatch.Proofs.Unitary.Amplitude
import CircuitDispatch.Proofs.Unitary.Lift

/-!
# Z rotations of all qubits, and gates they pass

`zRotations θ` rotates every qubit `q` about Z by `θ q`. It is diagonal, its entries
have modulus one, and rotations add up (`zRotations_add`).

A rotation *passes* a gate if doing it before the gate is doing it after another
gate, up to a phase. `Single.Passes` and `Pair.Passes` say this of the gates' own
entries, and `Single.Passes.lift` and `Pair.Passes.lift` carry it to operators on all
qubits, where the other qubits may be rotated as well. The rest of the module is
the list of gates that rotations pass: about an axis of the equator the azimuth is
lessened (`passes_gpi`, `passes_gpi2`, `passes_prx`, `passes_ms`), diagonal gates do not
change (`passes_cz`), and gates that are equal up to a phase pass no rotation at all
(`passes_rx_pi`, `passes_v`).
-/

namespace CircuitDispatch.Unitary

variable {R : Type} [ExactScalar R] {n : Nat}

open Amplitude Trigonometric

/-! ### Rotating all qubits -/

/-- The angle of the phase that a Z rotation gives to a qubit with this bit. -/
def signedHalf (theta : R) : Bool → R
  | false => half (-theta)
  | true => half theta

@[simp] theorem signedHalf_zero (b : Bool) : signedHalf (0 : R) b = 0 := by
  cases b <;> simp [signedHalf]

theorem signedHalf_add (x y : R) (b : Bool) :
    signedHalf (x + y) b = signedHalf x b + signedHalf y b := by
  cases b with
  | false =>
    simp only [signedHalf, neg_add]
    exact ExactScalar.half_add (-x) (-y)
  | true => exact ExactScalar.half_add x y

/-- From bit to bit the angle of the phase changes by the whole rotation. -/
theorem signedHalf_true_sub_false (x : R) : signedHalf x true - signedHalf x false = x := by
  simp only [signedHalf, ExactScalar.half_neg, sub_neg_eq_add]
  exact ExactScalar.half_add_half x

/-- The angle of the phase of a basis state, when qubit `q` is rotated by `theta q`. -/
def rotationAngle (theta : Nat → R) (r : Basis n) : R := ∑ q : Fin n, signedHalf (theta q) (r.bit q)

/-- **The rotation of every qubit** `q` about Z by `theta q`. -/
def zRotations (theta : Nat → R) : Operator (Amplitude R) n :=
  Matrix.diagonal fun r => phase (rotationAngle theta r)

@[simp] theorem zRotations_zero :
    zRotations (fun _ => (0 : R)) = (1 : Operator (Amplitude R) n) := by
  simp [zRotations, rotationAngle]

theorem zRotations_add (theta theta' : Nat → R) :
    (zRotations (fun q => theta q + theta' q) : Operator (Amplitude R) n)
      = zRotations theta * zRotations theta' := by
  unfold zRotations
  rw [Matrix.diagonal_mul_diagonal]
  refine congrArg Matrix.diagonal (funext fun r => ?_)
  rw [← phase_add]
  refine congrArg phase ?_
  simp only [rotationAngle, signedHalf_add, Finset.sum_add_distrib]

/-- The entries of a Z rotation of one qubit. -/
theorem entry_rz (x : R) (i j : Bool) :
    (Single.rz x).entry i j = if i = j then phase (signedHalf x i) else 0 := by
  cases i <;> cases j <;> simp [Single.entry, Single.rz, signedHalf, zero_def]

/-- The rotation of one qubit, as a gate on all qubits. -/
theorem lift_rz (x : R) (q : Fin n) :
    (Single.rz x).lift q = zRotations (fun p => if p = q then x else 0) := by
  ext1 r c
  unfold zRotations
  rw [Single.lift, lift_apply, entry_rz, Matrix.diagonal_apply]
  by_cases hrc : r = c
  · subst hrc
    rw [if_pos (AgreeOff.refl _ r), if_pos rfl, if_pos rfl]
    refine congrArg phase ?_
    unfold rotationAngle
    rw [Finset.sum_eq_single q]
    · simp
    · intro p _ hp
      have hval : p.val ≠ q.val := fun h => hp (Fin.ext h)
      simp [hval]
    · intro h
      exact absurd (Finset.mem_univ q) h
  · rw [if_neg hrc]
    by_cases hoff : AgreeOff {q} r c
    · -- states that agree off `q` and differ do so on `q`
      have hq : r.bit q ≠ c.bit q := by
        intro h
        refine hrc (Basis.ext_bit fun p => ?_)
        by_cases hp : p = q
        · rw [hp, h]
        · exact hoff p (by simpa using hp)
      rw [if_pos hoff, if_neg hq]
    · rw [if_neg hoff]

/-- States that agree off some qubits are turned by the difference on these qubits. -/
theorem rotationAngle_of_agreeOff {S : Finset (Fin n)} {r c : Basis n} (h : AgreeOff S r c)
    (theta : Nat → R) :
    rotationAngle theta c = rotationAngle theta r
      + ∑ q ∈ S, (signedHalf (theta q) (c.bit q) - signedHalf (theta q) (r.bit q)) := by
  have hsum : ∑ q ∈ S, (signedHalf (theta q) (c.bit q) - signedHalf (theta q) (r.bit q))
      = ∑ q : Fin n, (signedHalf (theta q) (c.bit q) - signedHalf (theta q) (r.bit q)) := by
    refine Finset.sum_subset (Finset.subset_univ S) fun q _ hq => ?_
    rw [h q hq, sub_self]
  rw [hsum, Finset.sum_sub_distrib]
  unfold rotationAngle
  ring

/-- **Rotations pass a lifted gate** if they pass its entries. -/
private theorem lift_mul_zRotations {S : Finset (Fin n)}
    {gate gate' : Basis n → Basis n → Amplitude R} {theta : Nat → R} {w : Amplitude R}
    (h : ∀ r c, gate r c
        * phase (∑ q ∈ S, (signedHalf (theta q) (c.bit q) - signedHalf (theta q) (r.bit q)))
      = w * gate' r c) :
    lift S gate * zRotations theta = w • (zRotations theta * lift S gate') := by
  ext1 r c
  unfold zRotations
  rw [Matrix.mul_diagonal, Matrix.smul_apply, Matrix.diagonal_mul, lift_apply, lift_apply,
    smul_eq_mul]
  by_cases hoff : AgreeOff S r c
  · rw [if_pos hoff, if_pos hoff, rotationAngle_of_agreeOff hoff, phase_add]
    linear_combination phase (rotationAngle theta r) * h r c
  · rw [if_neg hoff, if_neg hoff]
    ring

/-! ### Gates that rotations pass -/

/-- A rotation by `theta` before the first gate is one after the second, up to a phase. -/
def Single.Passes (gate gate' : Single (Amplitude R)) (theta : R) : Prop :=
  ∃ w : Amplitude R, w.IsPhase ∧ ∀ i j,
    gate.entry i j * phase (signedHalf theta j - signedHalf theta i) = w * gate'.entry i j

/-- Rotations by `theta` and `theta'` of the two qubits before the first gate are rotations after
the second, up to a phase. -/
def Pair.Passes (gate gate' : Pair (Amplitude R)) (theta theta' : R) : Prop :=
  ∃ w : Amplitude R, w.IsPhase ∧ ∀ i j : Bool × Bool,
    gate.entry i j * phase (signedHalf theta j.1 - signedHalf theta i.1
      + (signedHalf theta' j.2 - signedHalf theta' i.2)) = w * gate'.entry i j

theorem Single.Passes.lift {gate gate' : Single (Amplitude R)} {q : Fin n} {theta : Nat → R}
    (h : gate.Passes gate' (theta q)) :
    ∃ w : Amplitude R, w.IsPhase ∧
      gate.lift q * zRotations theta = w • (zRotations theta * gate'.lift q) := by
  obtain ⟨w, hw, hentry⟩ := h
  refine ⟨w, hw, lift_mul_zRotations fun r c => ?_⟩
  rw [Finset.sum_singleton]
  exact hentry (r.bit q) (c.bit q)

theorem Pair.Passes.lift {gate gate' : Pair (Amplitude R)} {first second : Fin n}
    (hne : first ≠ second) {theta : Nat → R} (h : gate.Passes gate' (theta first) (theta second)) :
    ∃ w : Amplitude R, w.IsPhase ∧
      gate.lift first second * zRotations theta
        = w • (zRotations theta * gate'.lift first second) := by
  obtain ⟨w, hw, hentry⟩ := h
  refine ⟨w, hw, lift_mul_zRotations fun r c => ?_⟩
  rw [Finset.sum_pair hne]
  exact hentry (r.bit first, r.bit second) (c.bit first, c.bit second)

/-- Without a rotation every gate stays itself. -/
theorem Single.Passes.refl (gate : Single (Amplitude R)) : gate.Passes gate 0 :=
  ⟨1, IsPhase.one, fun i j => by simp⟩

theorem Pair.Passes.refl (gate : Pair (Amplitude R)) : gate.Passes gate 0 0 :=
  ⟨1, IsPhase.one, fun i j => by simp⟩

/-- Phases of equal angles, in front of a common factor. -/
private theorem mul_phase_eq {k : Amplitude R} {x y z : R} (h : x + y = z) :
    k * phase x * phase y = 1 * (k * phase z) := by
  rw [← h, phase_add]
  ring

/-- A rotation passes a gate about an axis of the equator, whose entries off the diagonal are a
number times the phases of the azimuth. -/
private theorem passes_equatorial {gate gate' : Single (Amplitude R)} (d k : Amplitude R)
    (phi theta : R) (hg : gate = ⟨d, k * phase (-phi), k * phase phi, d⟩)
    (hg' : gate' = ⟨d, k * phase (-(phi - theta)), k * phase (phi - theta), d⟩) :
    gate.Passes gate' theta := by
  have hturn := signedHalf_true_sub_false theta
  refine ⟨1, IsPhase.one, fun i j => ?_⟩
  subst hg hg'
  -- on the diagonal the bit stays; off it the phase turns by the whole rotation
  cases i <;> cases j
  · simp [Single.entry]
  · exact mul_phase_eq (by linear_combination hturn)
  · exact mul_phase_eq (by linear_combination -hturn)
  · simp [Single.entry]

theorem passes_gpi (phi theta : R) :
    (Single.gpi phi : Single (Amplitude R)).Passes (.gpi (phi - theta)) theta := by
  refine passes_equatorial 0 1 phi theta ?_ ?_ <;>
    simp only [Single.gpi, zero_def, one_mul]

theorem passes_gpi2 (phi theta : R) :
    (Single.gpi2 phi : Single (Amplitude R)).Passes (.gpi2 (phi - theta)) theta :=
  passes_equatorial _ _ phi theta rfl rfl

theorem passes_prx (x phi theta : R) :
    (Single.prx x phi : Single (Amplitude R)).Passes (.prx x (phi - theta)) theta := by
  refine passes_equatorial (ofReal (cos (half x))) (-Amplitude.i * ofReal (sin (half x))) phi theta
    ?_ ?_ <;>
    simp only [Single.prx, polar_eq, mul_assoc]

/-- A half turn about X is the Pauli matrix up to a phase. -/
theorem passes_rx_pi : (Single.x : Single (Amplitude R)).Passes (.rx Scalar.pi) 0 := by
  refine ⟨Amplitude.i, by simp [IsPhase, normSq, Amplitude.i], fun i j => ?_⟩
  have hcos := ExactScalar.cos_half_pi (R := R)
  have hsin := ExactScalar.sin_half_pi (R := R)
  cases i <;> cases j <;> ext <;>
    simp [Single.entry, Single.x, Single.rx, Single.prx, hcos, hsin, polar_eq, Amplitude.i,
      ofReal, zero_def, one_def]

/-- A quarter turn about X is the square root of X up to a phase. -/
theorem passes_v : (Single.rx quarter : Single (Amplitude R)).Passes .v 0 := by
  have hcos : cos (half quarter) = (sqrtHalf : R) := ExactScalar.cos_eighth
  have hsin : sin (half quarter) = (sqrtHalf : R) := ExactScalar.sin_eighth
  have hone : half (1 : R) + half 1 = 1 := ExactScalar.half_add_half 1
  -- the two entries of the square root of X, turned back by an eighth of a turn
  have hdiag : (⟨sqrtHalf, -sqrtHalf⟩ * ⟨half 1, half 1⟩ : Amplitude R) = ⟨sqrtHalf, 0⟩ := by
    ext
    · rw [mul_re]; linear_combination sqrtHalf * hone
    · rw [mul_im]; ring
  have hoff : (⟨sqrtHalf, -sqrtHalf⟩ * ⟨half 1, -half 1⟩ : Amplitude R) = ⟨0, -sqrtHalf⟩ := by
    ext
    · rw [mul_re]; ring
    · rw [mul_im]; linear_combination -sqrtHalf * hone
  refine ⟨⟨sqrtHalf, -sqrtHalf⟩, ?_, fun i j => ?_⟩
  · simp only [IsPhase, normSq, neg_mul_neg, ExactScalar.sqrtHalf_mul_self, hone]
  · cases i <;> cases j <;>
      simp only [Single.entry, Single.v, ExactScalar.ofNat_one, hdiag, hoff] <;> ext <;>
      simp [Single.rx, Single.prx, hcos, hsin, polar_eq, Amplitude.i, ofReal]

theorem passes_cz (theta theta' : R) :
    (Pair.cz : Pair (Amplitude R)).Passes .cz theta theta' := by
  refine ⟨1, IsPhase.one, ?_⟩
  rintro ⟨i, i'⟩ ⟨j, j'⟩
  -- off the diagonal all entries are zero, and on it the angles cancel
  cases i <;> cases i' <;> cases j <;> cases j' <;>
    simp [Pair.entry, Pair.index, Pair.cz, Pair.diagonal, Pair.ofRows, zero_def]

/-- The Mølmer–Sørensen gate takes each qubit's rotation into the phase on that qubit. -/
theorem passes_ms (x theta theta' : R) :
    (Pair.ms 0 0 x : Pair (Amplitude R)).Passes (.ms (0 - theta) (0 - theta') x) theta theta' := by
  have hturn := signedHalf_true_sub_false theta
  have hturn' := signedHalf_true_sub_false theta'
  have hflip : ∀ {y d z : R}, y + d = z → -Amplitude.i * polar (sin (half x)) y * phase d
      = 1 * (-Amplitude.i * polar (sin (half x)) z) := by
    rintro y d _ rfl
    rw [polar_eq, polar_eq, phase_add]
    ring
  refine ⟨1, IsPhase.one, ?_⟩
  rintro ⟨i, i'⟩ ⟨j, j'⟩
  cases i <;> cases i' <;> cases j <;> cases j'
  -- the entries that flip both qubits, whose phases have to agree
  case false.false.true.true => exact hflip (by linear_combination hturn + hturn')
  case false.true.true.false => exact hflip (by linear_combination hturn - hturn')
  case true.false.false.true => exact hflip (by linear_combination hturn' - hturn)
  case true.true.false.false => exact hflip (by linear_combination -hturn - hturn')
  -- the diagonal entries, which are equal, and the zeros
  all_goals simp [Pair.entry, Pair.index, Pair.ms, Pair.ofRows, zero_def]

end CircuitDispatch.Unitary
