import CircuitDispatch.Proofs.Sequencing
import CircuitDispatch.Proofs.Unitary.Amplitude
import CircuitDispatch.Proofs.Unitary.Lift

/-!
# Unitary gates

Every gate of a circuit and every native gate has a unitary matrix, at all angles
(`isUnitary_of_ofSingleGate`, `isUnitary_of_ofPairGate`, `isUnitary_of_ofNativeGate`).

A gate on one qubit is unitary if its two rows have length one and are orthogonal
(`Single.isUnitary_of_rows`), and most of them are turns about an axis of the equator
(`Single.isUnitary_turn`). A gate on two qubits is made of two blocks that are gates on one
qubit, once its rows and columns are sorted in the right way (`Pair.isUnitary_of_blocks`): by the
first qubit where that is a control, and by the parity of the two qubits where excitations are
exchanged or created in pairs.
-/

namespace CircuitDispatch.Unitary

variable {R : Type} [ExactScalar R]

open Amplitude Trigonometric

/-- A unitary gate on one qubit. -/
def Single.IsUnitary (gate : Single (Amplitude R)) : Prop :=
  Matrix.of gate.entry ∈ Matrix.unitaryGroup Bool (Amplitude R)

/-- A unitary gate on two qubits. -/
def Pair.IsUnitary (gate : Pair (Amplitude R)) : Prop :=
  Matrix.of gate.entry ∈ Matrix.unitaryGroup (Bool × Bool) (Amplitude R)

/-- `sqrtHalf` is the cosine and the sine of one angle. -/
private theorem sqrtHalf_sq_add_sq : (sqrtHalf : R) * sqrtHalf + sqrtHalf * sqrtHalf = 1 := by
  rw [ExactScalar.sqrtHalf_mul_self, ExactScalar.half_add_half]

/-! ### One qubit -/

namespace Single

/-- A gate on one qubit is unitary if its rows have length one and are orthogonal. -/
theorem isUnitary_of_rows {gate : Single (Amplitude R)}
    (hfirst : gate.a * star gate.a + gate.b * star gate.b = 1)
    (hsecond : gate.c * star gate.c + gate.d * star gate.d = 1)
    (hcross : gate.a * star gate.c + gate.b * star gate.d = 0) : gate.IsUnitary := by
  -- the rows in the other order give the conjugate
  have hcross' : gate.c * star gate.a + gate.d * star gate.b = 0 := by
    have h := congrArg star hcross
    simp only [star_add, star_mul, star_star, star_zero] at h
    exact h
  unfold IsUnitary
  rw [Matrix.mem_unitaryGroup_iff, Matrix.star_eq_conjTranspose]
  ext1 i j
  rw [Matrix.mul_apply, Fintype.sum_bool, add_comm]
  cases i <;> cases j
  case false.false => exact hfirst
  case false.true => exact hcross
  case true.false => exact hcross'
  case true.true => exact hsecond

theorem isUnitary_diagonal {a d : Amplitude R} (ha : a.IsPhase) (hd : d.IsPhase) :
    (⟨a, 0, 0, d⟩ : Single (Amplitude R)).IsUnitary := by
  refine isUnitary_of_rows ?_ ?_ ?_
  · simp [ha.mul_star]
  · simp [hd.mul_star]
  · simp

/-- A gate about an axis of the equator, whose entries off the diagonal are a number times the
phases of the azimuth. -/
theorem isUnitary_equatorial {d k : Amplitude R} (phi : R)
    (hlength : d * star d + k * star k = 1) (hcross : d * star k + k * star d = 0) :
    (⟨d, k * phase (-phi), k * phase phi, d⟩ : Single (Amplitude R)).IsUnitary := by
  -- the azimuth cancels in the lengths, and it is a common factor of the products
  have hphase : phase (-phi) * phase phi = 1 := by
    rw [← phase_add, neg_add_cancel, phase_zero]
  refine isUnitary_of_rows ?_ ?_ ?_
  · simp only [star_mul, star_phase, neg_neg]
    linear_combination hlength + k * star k * hphase
  · simp only [star_mul, star_phase]
    linear_combination hlength + k * star k * hphase
  · simp only [star_mul, star_phase]
    linear_combination phase (-phi) * hcross

/-- A turn about an axis of the equator, by its cosine and sine. -/
theorem isUnitary_turn {c s : R} (h : c * c + s * s = 1) (phi : R) :
    (⟨ofReal c, -Amplitude.i * ofReal s * phase (-phi), -Amplitude.i * ofReal s * phase phi,
      ofReal c⟩ : Single (Amplitude R)).IsUnitary := by
  refine isUnitary_equatorial phi ?_ ?_
  · rw [mul_star_self, mul_star_self]
    ext
    · simp only [normSq, Amplitude.i, ofReal, add_re, mul_re, mul_im, neg_re, neg_im, one_re,
        ExactScalar.ofNat_zero, ExactScalar.ofNat_one]
      linear_combination h
    · simp [ofReal]
  · -- one number is real and the other imaginary, so the products with conjugates cancel
    ext <;> simp [Amplitude.i, ofReal, mul_comm]

/-- A turn at azimuth zero, in either direction. -/
theorem isUnitary_flip {c s : R} (h : c * c + s * s = 1) :
    (⟨ofReal c, ⟨0, s⟩, ⟨0, s⟩, ofReal c⟩ : Single (Amplitude R)).IsUnitary := by
  have h' : s * s + c * c = 1 := (add_comm _ _).trans h
  refine isUnitary_of_rows ?_ ?_ ?_ <;> ext <;> simp [ofReal, h, h', mul_comm]

theorem isUnitary_identity : (⟨one, zero, zero, one⟩ : Single (Amplitude R)).IsUnitary :=
  isUnitary_diagonal IsPhase.one IsPhase.one

theorem isUnitary_gpi (phi : R) : (Single.gpi phi).IsUnitary := by
  have h := isUnitary_equatorial (d := (0 : Amplitude R)) (k := 1) phi (by simp) (by simp)
  simp only [one_mul] at h
  exact h

theorem isUnitary_prx (theta phi : R) : (Single.prx theta phi).IsUnitary := by
  have h := isUnitary_turn (ExactScalar.cos_sq_add_sin_sq (half theta)) phi
  simpa only [prx, polar_eq, mul_assoc] using h

theorem isUnitary_gpi2 (phi : R) : (Single.gpi2 phi).IsUnitary :=
  isUnitary_turn sqrtHalf_sq_add_sq phi

theorem isUnitary_x : (Single.x : Single (Amplitude R)).IsUnitary := by
  refine isUnitary_of_rows ?_ ?_ ?_ <;> simp [x, zero_def, one_def]

theorem isUnitary_y : (Single.y : Single (Amplitude R)).IsUnitary := by
  refine isUnitary_of_rows ?_ ?_ ?_ <;> ext <;> simp [y, zero_def, Amplitude.i]

theorem isUnitary_z : (Single.z : Single (Amplitude R)).IsUnitary := by
  refine isUnitary_of_rows ?_ ?_ ?_ <;> simp [z, zero_def, one_def]

theorem isUnitary_h : (Single.h : Single (Amplitude R)).IsUnitary := by
  refine isUnitary_of_rows ?_ ?_ ?_ <;> ext <;> simp [h, ofReal, sqrtHalf_sq_add_sq]

theorem isUnitary_v : (Single.v : Single (Amplitude R)).IsUnitary := by
  have hone : half (1 : R) + half 1 = 1 := ExactScalar.half_add_half 1
  -- the real and the imaginary parts of two entries, squared
  have hfour : half (1 : R) * half 1 + half 1 * half 1
      + (half 1 * half 1 + half 1 * half 1) = 1 := by
    linear_combination (half 1 + half 1 + 1) * hone
  refine isUnitary_of_rows ?_ ?_ ?_ <;> ext <;> simp [v, hfour]

theorem isUnitary_ry (theta : R) : (Single.ry theta).IsUnitary := by
  have hsq := ExactScalar.cos_sq_add_sin_sq (half theta)
  refine isUnitary_of_rows ?_ ?_ ?_ <;> ext
  case refine_2.hre => simpa [ry, ofReal, add_comm] using hsq
  case refine_3.hre => simp [ry, ofReal, mul_comm]
  all_goals simp [ry, ofReal, hsq]

theorem isUnitary_rz (theta : R) : (Single.rz theta).IsUnitary :=
  isUnitary_diagonal (isPhase_phase _) (isPhase_phase _)

end Single

/-! ### Two qubits -/

namespace Pair

/-- **Unitary blocks.** A gate on two qubits is unitary if its rows and columns can be sorted into
the blocks of unitary gates on one qubit. The first component that a row or a column is sorted to
is its place in the block of the second. -/
theorem isUnitary_of_blocks {gate : Pair (Amplitude R)} (block : Bool → Single (Amplitude R))
    (rows cols : Bool × Bool ≃ Bool × Bool) (hblock : ∀ k, (block k).IsUnitary)
    (hentry : ∀ i j, gate.entry i j = if (rows i).2 = (cols j).2
      then (block (rows i).2).entry (rows i).1 (cols j).1 else 0) : gate.IsUnitary := by
  set sorted := Matrix.blockDiagonal fun k => Matrix.of (block k).entry with hsorted
  -- once sorted, the gate is the diagonal of its blocks
  have hgate : Matrix.of gate.entry = sorted.submatrix rows cols := by
    ext1 i j
    rw [Matrix.of_apply, hentry, Matrix.submatrix_apply, hsorted, Matrix.blockDiagonal_apply]
    rfl
  have hone : sorted * sorted.conjTranspose = 1 := by
    rw [hsorted, Matrix.blockDiagonal_conjTranspose, ← Matrix.blockDiagonal_mul,
      ← Matrix.blockDiagonal_one]
    exact congrArg Matrix.blockDiagonal
      (funext fun k => Matrix.mem_unitaryGroup_iff.mp (hblock k))
  unfold IsUnitary
  rw [Matrix.mem_unitaryGroup_iff, Matrix.star_eq_conjTranspose, hgate,
    Matrix.conjTranspose_submatrix, Matrix.submatrix_mul_equiv, hone, Matrix.submatrix_one_equiv]

/-- Sorts states of two qubits by the first qubit. -/
def byFirst : Bool × Bool ≃ Bool × Bool := Equiv.prodComm Bool Bool

/-- Sorts states of two qubits by whether the qubits differ. -/
def byParity : Bool × Bool ≃ Bool × Bool where
  toFun i := (i.1, i.1 ^^ i.2)
  invFun i := (i.1, i.1 ^^ i.2)
  left_inv i := by simp
  right_inv i := by simp

theorem isUnitary_diagonal {a b c d : Amplitude R} (ha : a.IsPhase) (hb : b.IsPhase)
    (hc : c.IsPhase) (hd : d.IsPhase) : (Pair.diagonal a b c d).IsUnitary := by
  refine isUnitary_of_blocks (fun k => if k then ⟨c, 0, 0, d⟩ else ⟨a, 0, 0, b⟩)
    byFirst byFirst (Bool.forall_bool.mpr ⟨?_, ?_⟩) ?_
  · exact Single.isUnitary_diagonal ha hb
  · exact Single.isUnitary_diagonal hc hd
  · rintro ⟨_ | _, _ | _⟩ ⟨_ | _, _ | _⟩ <;> rfl

theorem isUnitary_cz : (Pair.cz : Pair (Amplitude R)).IsUnitary := by
  have hminus : (-1 : Amplitude R).IsPhase := by simp [IsPhase, normSq]
  exact isUnitary_diagonal IsPhase.one IsPhase.one IsPhase.one hminus

theorem isUnitary_cphaseshift (theta : R) : (Pair.cphaseshift theta).IsUnitary :=
  isUnitary_diagonal IsPhase.one IsPhase.one IsPhase.one (isPhase_phase theta)

theorem isUnitary_cnot : (Pair.cnot : Pair (Amplitude R)).IsUnitary := by
  -- the second qubit is left alone or flipped, as the first one says
  refine isUnitary_of_blocks (fun k => if k then .x else ⟨one, zero, zero, one⟩)
    byFirst byFirst (Bool.forall_bool.mpr ⟨?_, ?_⟩) ?_
  · exact Single.isUnitary_identity
  · exact Single.isUnitary_x
  · rintro ⟨_ | _, _ | _⟩ ⟨_ | _, _ | _⟩ <;> rfl

theorem isUnitary_ms (phi0 phi1 theta : R) : (Pair.ms phi0 phi1 theta).IsUnitary := by
  -- equal bits turn about the sum of the phases, different ones about their difference
  refine isUnitary_of_blocks
    (fun k => if k then .prx theta (phi0 - phi1) else .prx theta (phi0 + phi1))
    byParity byParity (Bool.forall_bool.mpr ⟨?_, ?_⟩) ?_
  · exact Single.isUnitary_prx theta _
  · exact Single.isUnitary_prx theta _
  · rintro ⟨_ | _, _ | _⟩ ⟨_ | _, _ | _⟩ <;> rfl

theorem isUnitary_xy (theta : R) : (Pair.xy theta).IsUnitary := by
  -- equal bits stay, different ones are exchanged
  set x := sin (half theta) with hx
  have himaginary : (⟨Amplitude.i.re * x, Amplitude.i.im * x⟩ : Amplitude R) = ⟨0, x⟩ := by
    ext <;> simp [Amplitude.i]
  refine isUnitary_of_blocks
    (fun k => if k then ⟨ofReal (cos (half theta)), ⟨0, x⟩, ⟨0, x⟩,
      ofReal (cos (half theta))⟩ else ⟨one, zero, zero, one⟩)
    byParity byParity (Bool.forall_bool.mpr ⟨?_, ?_⟩) ?_
  · exact Single.isUnitary_identity
  · exact Single.isUnitary_flip (ExactScalar.cos_sq_add_sin_sq (half theta))
  · unfold xy
    simp only [← hx, himaginary]
    rintro ⟨_ | _, _ | _⟩ ⟨_ | _, _ | _⟩ <;> rfl

/-- The echo sends the states of one second qubit to those of the other. -/
theorem isUnitary_ecr : (Pair.ecr : Pair (Amplitude R)).IsUnitary := by
  set s : Amplitude R := ofReal sqrtHalf with hs
  have himaginary : Amplitude.i * s = ⟨0, sqrtHalf⟩ := by
    ext <;> simp [Amplitude.i, s, ofReal]
  have himaginary' : -(⟨0, sqrtHalf⟩ : Amplitude R) = ⟨0, -sqrtHalf⟩ := by
    ext <;> simp
  refine isUnitary_of_blocks
    (fun k => if k then ⟨s, ⟨0, -sqrtHalf⟩, ⟨0, -sqrtHalf⟩, s⟩
      else ⟨s, ⟨0, sqrtHalf⟩, ⟨0, sqrtHalf⟩, s⟩)
    (Equiv.refl _) (Equiv.prodCongr (Equiv.refl Bool) Equiv.boolNot)
    (Bool.forall_bool.mpr ⟨?_, ?_⟩) ?_
  · exact Single.isUnitary_flip sqrtHalf_sq_add_sq
  · refine Single.isUnitary_flip ?_
    rw [neg_mul_neg]
    exact sqrtHalf_sq_add_sq
  · unfold ecr
    simp only [← hs, himaginary, himaginary']
    rintro ⟨_ | _, _ | _⟩ ⟨_ | _, _ | _⟩ <;> rfl

end Pair

/-! ### The gates of circuits and blocks -/

theorem isUnitary_of_ofSingleGate {gate : SingleGate R} {g : Single (Amplitude R)}
    (h : ofSingleGate gate = .ok g) : g.IsUnitary := by
  cases gate <;>
    simp only [ofSingleGate, bind_eq_ok_iff, pure_eq_ok_iff, Except.ok.injEq] at h
  case rotateZ =>
    obtain ⟨v, -, rfl⟩ := h
    exact Single.isUnitary_rz v
  case rotateX =>
    obtain ⟨v, -, rfl⟩ := h
    exact Single.isUnitary_prx v _
  case rotateY =>
    obtain ⟨v, -, rfl⟩ := h
    exact Single.isUnitary_ry v
  case rotateXY =>
    obtain ⟨v, -, w, -, rfl⟩ := h
    exact Single.isUnitary_prx v w
  case gpi =>
    obtain ⟨v, -, rfl⟩ := h
    exact Single.isUnitary_gpi v
  case gpi2 =>
    obtain ⟨v, -, rfl⟩ := h
    exact Single.isUnitary_gpi2 v
  -- the gates without an angle
  all_goals subst h
  case pauliX => exact Single.isUnitary_x
  case pauliY => exact Single.isUnitary_y
  case pauliZ => exact Single.isUnitary_z
  case sqrtPauliX => exact Single.isUnitary_prx _ _
  case invSqrtPauliX => exact Single.isUnitary_prx _ _
  case hadamard => exact Single.isUnitary_h

theorem isUnitary_of_ofPairGate {gate : PairGate R} {g : Pair (Amplitude R)}
    (h : ofPairGate gate = .ok g) : g.IsUnitary := by
  cases gate <;> simp only [ofPairGate, bind_eq_ok_iff, pure_eq_ok_iff, Except.ok.injEq] at h
  case controlledPhaseShift =>
    obtain ⟨v, -, rfl⟩ := h
    exact Pair.isUnitary_cphaseshift v
  case xy =>
    obtain ⟨v, -, rfl⟩ := h
    exact Pair.isUnitary_xy v
  case variableMSXX =>
    obtain ⟨v, -, rfl⟩ := h
    exact Pair.isUnitary_ms _ _ v
  all_goals subst h
  case cnot => exact Pair.isUnitary_cnot
  case controlledPauliZ => exact Pair.isUnitary_cz
  case molmerSorensenXX => exact Pair.isUnitary_ms _ _ _
  case echoCrossResonance => exact Pair.isUnitary_ecr

/-- A native gate is on one qubit, or it is one of those that take two. -/
theorem isUnitary_of_ofNativeGate {gate : NativeGate R}
    {g : Single (Amplitude R) ⊕ Pair (Amplitude R)} (h : ofNativeGate gate = .ok g) :
    (∃ single, g = .inl single ∧ single.IsUnitary) ∨
      gate.arity = 2 ∧ ∃ pair, g = .inr pair ∧ pair.IsUnitary := by
  cases gate <;> simp only [ofNativeGate, bind_eq_ok_iff, pure_eq_ok_iff, Except.ok.injEq] at h
  case gpi =>
    obtain ⟨v, -, rfl⟩ := h
    exact .inl ⟨_, rfl, Single.isUnitary_gpi v⟩
  case gpi2 =>
    obtain ⟨v, -, rfl⟩ := h
    exact .inl ⟨_, rfl, Single.isUnitary_gpi2 v⟩
  case prx =>
    obtain ⟨v, -, w, -, rfl⟩ := h
    exact .inl ⟨_, rfl, Single.isUnitary_prx v w⟩
  case rx =>
    obtain ⟨v, -, rfl⟩ := h
    exact .inl ⟨_, rfl, Single.isUnitary_prx v _⟩
  case rz =>
    obtain ⟨v, -, rfl⟩ := h
    exact .inl ⟨_, rfl, Single.isUnitary_rz v⟩
  case ms =>
    obtain ⟨u, -, v, -, w, -, rfl⟩ := h
    exact .inr ⟨rfl, _, rfl, Pair.isUnitary_ms u v w⟩
  case cphaseshift =>
    obtain ⟨v, -, rfl⟩ := h
    exact .inr ⟨rfl, _, rfl, Pair.isUnitary_cphaseshift v⟩
  case xy =>
    obtain ⟨v, -, rfl⟩ := h
    exact .inr ⟨rfl, _, rfl, Pair.isUnitary_xy v⟩
  all_goals subst h
  case v => exact .inl ⟨_, rfl, Single.isUnitary_v⟩
  case x => exact .inl ⟨_, rfl, Single.isUnitary_x⟩
  case cz => exact .inr ⟨rfl, _, rfl, Pair.isUnitary_cz⟩
  case ecr => exact .inr ⟨rfl, _, rfl, Pair.isUnitary_ecr⟩

end CircuitDispatch.Unitary
