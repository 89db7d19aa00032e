import CircuitDispatch.Proofs.Unitary.Steps
import CircuitDispatch.Proofs.Unitary.UnitaryGate

/-!
# Matrices of circuits are unitary

A gate that is unitary on its qubits is unitary on all of them (`lift_mem_unitaryGroup`): the states
that agree with a row off the qubits of the gate are numbered by their bits on these qubits, so two
such rows multiply as the rows of the gate, and two other rows have no state in common. So being
unitary is an invariant of the steps of a matrix (`Matrix.IsUnitary.operation`,
`Matrix.IsUnitary.instruction`, `Matrix.IsUnitary.residual`), and the matrices of circuits and
blocks are unitary (`unitary_mul_conjTranspose`).
-/

namespace CircuitDispatch.Unitary

variable {R : Type} [ExactScalar R] {n : Nat}

open Amplitude

/-! ### Unitary operators on all qubits -/

/-- The basis state with a qubit set to a value. -/
def Basis.assign (q : Fin n) (b : Bool) (r : Basis n) : Basis n :=
  if b then Basis.raise q r else Basis.lower q r

@[simp] theorem Basis.bit_assign (q p : Fin n) (b : Bool) (r : Basis n) :
    (Basis.assign q b r).bit p = if p = q then b else r.bit p := by
  cases b <;> simp [Basis.assign]

section Lift

variable {β : Type} [Fintype β] {S : Finset (Fin n)} {index : Basis n → β}

/-- Where states that agree off some qubits are numbered, a sum over them runs over the numbers. -/
theorem sum_agreeOff (hindex : ∀ r b, ∃! s, AgreeOff S r s ∧ index s = b) (f : β → Amplitude R)
    (r : Basis n) :
    ∑ s ∈ Finset.univ.filter (fun s => AgreeOff S r s), f (index s) = ∑ b, f b := by
  refine Finset.sum_bij (fun s _ => index s) (fun _ _ => Finset.mem_univ _) ?_ ?_
    (fun _ _ => rfl)
  · intro s hs t ht hst
    exact (hindex r (index t)).unique ⟨(Finset.mem_filter.mp hs).2, hst⟩
      ⟨(Finset.mem_filter.mp ht).2, rfl⟩
  · intro b _
    obtain ⟨s, ⟨hs, hb⟩, -⟩ := hindex r b
    exact ⟨s, Finset.mem_filter.mpr ⟨Finset.mem_univ s, hs⟩, hb⟩

/-- **A lifted unitary is unitary**, if among the states that agree off its qubits each index of its
rows and columns stands for exactly one. -/
theorem lift_mem_unitaryGroup [DecidableEq β]
    (hindex : ∀ r b, ∃! s, AgreeOff S r s ∧ index s = b) {gate : β → β → Amplitude R}
    (hgate : Matrix.of gate ∈ Matrix.unitaryGroup β (Amplitude R)) :
    lift S (fun r c => gate (index r) (index c))
      ∈ Matrix.unitaryGroup (Basis n) (Amplitude R) := by
  rw [Matrix.mem_unitaryGroup_iff, Matrix.star_eq_conjTranspose]
  ext1 r c
  rw [lift_mul_apply, Matrix.one_apply]
  by_cases hoff : AgreeOff S r c
  · -- both rows run over the same states, one for each index
    have hterm : ∀ s ∈ Finset.univ.filter (fun s => AgreeOff S r s),
        gate (index r) (index s) * (lift S fun r c => gate (index r) (index c)).conjTranspose s c
          = gate (index r) (index s) * star (gate (index c) (index s)) := by
      intro s hs
      have hcs : AgreeOff S c s := hoff.symm.trans (Finset.mem_filter.mp hs).2
      rw [Matrix.conjTranspose_apply, lift_apply, if_pos hcs]
    have hgate' : ∑ b, gate (index r) b * star (gate (index c) b)
        = if index r = index c then 1 else 0 := by
      have h := congrFun (congrFun (Matrix.mem_unitaryGroup_iff.mp hgate) (index r)) (index c)
      rw [Matrix.star_eq_conjTranspose, Matrix.mul_apply, Matrix.one_apply] at h
      exact h
    have hrc : index r = index c ↔ r = c :=
      ⟨fun h => (hindex r (index c)).unique ⟨AgreeOff.refl S r, h⟩ ⟨hoff, rfl⟩, congrArg index⟩
    rw [Finset.sum_congr rfl hterm,
      sum_agreeOff hindex (fun b => gate (index r) b * star (gate (index c) b)), hgate',
      if_congr hrc rfl rfl]
  · -- no state agrees with both rows
    have hne : r ≠ c := by
      rintro rfl
      exact hoff (AgreeOff.refl S r)
    rw [if_neg hne]
    refine Finset.sum_eq_zero fun s hs => ?_
    have hcs : ¬AgreeOff S c s := fun h => hoff ((Finset.mem_filter.mp hs).2.trans h.symm)
    rw [Matrix.conjTranspose_apply, lift_apply, if_neg hcs, star_zero, mul_zero]

end Lift

theorem Single.IsUnitary.lift {gate : Single (Amplitude R)} (h : gate.IsUnitary) (q : Fin n) :
    gate.lift q ∈ Matrix.unitaryGroup (Basis n) (Amplitude R) := by
  have hindex : ∀ (r : Basis n) (b : Bool), ∃! s, AgreeOff {q} r s ∧ s.bit q = b := by
    intro r b
    refine ⟨Basis.assign q b r, ⟨fun p hp => ?_, by simp⟩, ?_⟩
    · rw [Basis.bit_assign, if_neg (by simpa using hp)]
    · rintro s ⟨hs, rfl⟩
      refine Basis.ext_bit fun p => ?_
      rw [Basis.bit_assign]
      split
      case isTrue hp => rw [hp]
      case isFalse hp => exact (hs p (by simpa using hp)).symm
  exact lift_mem_unitaryGroup hindex h

theorem Pair.IsUnitary.lift {gate : Pair (Amplitude R)} (h : gate.IsUnitary)
    {first second : Fin n} (hne : first ≠ second) :
    gate.lift first second ∈ Matrix.unitaryGroup (Basis n) (Amplitude R) := by
  have hindex : ∀ (r : Basis n) (b : Bool × Bool),
      ∃! s, AgreeOff {first, second} r s ∧ (s.bit first, s.bit second) = b := by
    rintro r ⟨b, b'⟩
    refine ⟨Basis.assign first b (Basis.assign second b' r), ⟨fun p hp => ?_, ?_⟩, ?_⟩
    · obtain ⟨hfirst, hsecond⟩ : p ≠ first ∧ p ≠ second := by simpa using hp
      rw [Basis.bit_assign, if_neg hfirst, Basis.bit_assign, if_neg hsecond]
    · simp [hne.symm]
    · rintro s ⟨hs, hbits⟩
      obtain ⟨rfl, rfl⟩ := Prod.mk.inj hbits
      refine Basis.ext_bit fun p => ?_
      rw [Basis.bit_assign, Basis.bit_assign]
      by_cases hfirst : p = first
      · rw [if_pos hfirst, hfirst]
      by_cases hsecond : p = second
      · rw [if_neg hfirst, if_pos hsecond, hsecond]
      rw [if_neg hfirst, if_neg hsecond]
      exact (hs p (by simp [hfirst, hsecond])).symm
  exact lift_mem_unitaryGroup hindex h

/-! ### Steps and runs -/

namespace Matrix

/-- A matrix that is unitary. -/
def IsUnitary (m : Matrix R n) : Prop :=
  m.toOperator ∈ Matrix.unitaryGroup (Basis n) (Amplitude R)

variable {m m' : Matrix R n}

theorem isUnitary_identity : (identity n : Matrix R n).IsUnitary := by
  have hone : (identity n : Matrix R n).toOperator = 1 := by
    ext1 r c
    rw [Dense.toOperator_apply, identity, Dense.entry_ofEntries, Matrix.one_apply]
    -- ones and zeros of amplitudes are those of the ring
    rfl
  unfold IsUnitary
  rw [hone]
  exact one_mem _

theorem IsUnitary.single (hm : m.IsUnitary) {gate : Single (Amplitude R)} (hgate : gate.IsUnitary)
    {q : Nat} (h : m.single gate q = .ok m') : m'.IsUnitary := by
  obtain ⟨hq, rfl⟩ := single_eq_ok_iff.mp h
  unfold IsUnitary
  rw [Dense.toOperator_applySingle]
  exact mul_mem (hgate.lift _) hm

theorem IsUnitary.pair (hm : m.IsUnitary) {gate : Pair (Amplitude R)} (hgate : gate.IsUnitary)
    {first second : Nat} (hne : first ≠ second) (h : m.pair gate first second = .ok m') :
    m'.IsUnitary := by
  obtain ⟨hfirst, hsecond, rfl⟩ := pair_eq_ok_iff.mp h
  have hne' : (⟨first, hfirst⟩ : Fin n) ≠ ⟨second, hsecond⟩ := fun heq => hne (Fin.mk.inj heq)
  unfold IsUnitary
  rw [zero_def, Dense.toOperator_applyPair m gate hne']
  exact mul_mem (hgate.lift hne') hm

theorem IsUnitary.operation (hm : m.IsUnitary) {op : Operation R} (hvalid : op.validate = .ok ())
    (h : m.operation op = .ok m') : m'.IsUnitary := by
  cases op with
  | single gate q =>
    obtain ⟨g, hg, hstep⟩ := bind_eq_ok_iff.mp h
    exact hm.single (isUnitary_of_ofSingleGate hg) hstep
  | pair gate control target =>
    obtain ⟨g, hg, hstep⟩ := bind_eq_ok_iff.mp h
    -- an operation that is in order names two different qubits
    have hne : control ≠ target := by
      rintro rfl
      simp [Operation.validate] at hvalid
    exact hm.pair (isUnitary_of_ofPairGate hg) hne hstep
  | define | inputBit | measure | setShots | repeatMeasurement | globalPhase =>
    cases h
    exact hm

theorem IsUnitary.instruction (hm : m.IsUnitary) {i : Instruction R}
    (hdistinct : i.gate.arity = 2 → i.qubits.Nodup) (h : m.instruction i = .ok m') :
    m'.IsUnitary := by
  obtain ⟨gate, qubits⟩ := i
  obtain ⟨g, hg, hstep⟩ := bind_eq_ok_iff.mp h
  rcases isUnitary_of_ofNativeGate hg with ⟨g, rfl, hunitary⟩ | ⟨harity, g, rfl, hunitary⟩
  · match qubits with
    -- an instruction without its qubits leaves the matrix as it is
    | [] =>
      cases hstep
      exact hm
    | q :: _ => exact hm.single hunitary hstep
  · match qubits with
    | [] | [_] =>
      cases hstep
      exact hm
    | first :: second :: _ =>
      have hne : first ≠ second := by
        rintro rfl
        simpa using hdistinct harity
      exact hm.pair hunitary hne hstep

theorem IsUnitary.residual (hm : m.IsUnitary) {pending : Nat × Angle R}
    (h : m.residual pending = .ok m') : m'.IsUnitary := by
  obtain ⟨v, -, hstep⟩ := bind_eq_ok_iff.mp h
  exact hm.single (Single.isUnitary_rz v) hstep

end Matrix

/-- **Matrices of circuits and blocks are unitary**: a circuit's if every operation of it is in
order, and a block's, with or without the rotations left over, if its instructions on two qubits
name different ones. -/
theorem unitary_mul_conjTranspose :
    (∀ (c : Circuit R) (u : Matrix R n), (∀ op ∈ c.operations, op.validate = .ok ()) →
      c.unitary n = .ok u → u.toOperator * u.toOperator.conjTranspose = 1) ∧
    (∀ block : NativeBlock R, (∀ i ∈ block.instructions, i.gate.arity = 2 → i.qubits.Nodup) →
      (∀ u : Matrix R n, block.unitary n = .ok u →
        u.toOperator * u.toOperator.conjTranspose = 1) ∧
      (∀ u : Matrix R n, block.unitaryWithResiduals n = .ok u →
        u.toOperator * u.toOperator.conjTranspose = 1)) := by
  have hone : ∀ {u : Matrix R n}, u.IsUnitary → u.toOperator * u.toOperator.conjTranspose = 1 :=
    Matrix.mem_unitaryGroup_iff.mp
  constructor
  · intro c u hvalid hu
    exact hone (foldlM_invariant Matrix.IsUnitary
      (fun op hop _ _ hm h => hm.operation (hvalid op hop) h) Matrix.isUnitary_identity hu)
  · intro block hdistinct
    have hblock : ∀ {u : Matrix R n}, block.unitary n = .ok u → u.IsUnitary := fun hu =>
      foldlM_invariant Matrix.IsUnitary
        (fun i hi _ _ hm h => hm.instruction (hdistinct i hi) h) Matrix.isUnitary_identity hu
    refine ⟨fun u hu => hone (hblock hu), fun u hu => ?_⟩
    -- the rotations left over go on from the matrix of the block
    obtain ⟨b, hb, hresiduals⟩ := bind_eq_ok_iff.mp hu
    exact hone (foldlM_invariant Matrix.IsUnitary (fun _ _ _ _ hm h => hm.residual h) (hblock hb)
      hresiduals)

/-- Two qubits that are entangled by a circuit, and by a block with a rotation left over. -/
theorem unitary_mul_conjTranspose_entangled :
    let c : Circuit ℝ := ⟨[.single .hadamard 0, .pair .cnot 0 1]⟩
    let block : NativeBlock ℝ :=
      ⟨.ionq, [⟨.gpi2 (.constant 0), [0]⟩, ⟨.ms (.constant 0) (.constant 0) (.constant 1), [0, 1]⟩],
        .ofList [(0, 0), (1, 1)], [0, 1], .ofList [(0, .constant 1)]⟩
    (∀ op ∈ c.operations, op.validate = .ok ()) ∧
    (∀ i ∈ block.instructions, i.gate.arity = 2 → i.qubits.Nodup) ∧
    ∃ u v w : Matrix ℝ 2, c.unitary 2 = .ok u ∧ u.toOperator * u.toOperator.conjTranspose = 1 ∧
      block.unitary 2 = .ok v ∧ v.toOperator * v.toOperator.conjTranspose = 1 ∧
      block.unitaryWithResiduals 2 = .ok w ∧ w.toOperator * w.toOperator.conjTranspose = 1 := by
  intro c block
  have hvalid : ∀ op ∈ c.operations, op.validate = .ok () := by
    simp [c, Operation.validate]
  have hdistinct : ∀ i ∈ block.instructions, i.gate.arity = 2 → i.qubits.Nodup := by
    simp [block, NativeGate.arity]
  obtain ⟨u, hu⟩ : ∃ u, c.unitary 2 = .ok u := ⟨_, rfl⟩
  obtain ⟨v, hv⟩ : ∃ v, block.unitary 2 = .ok v := ⟨_, rfl⟩
  obtain ⟨w, hw⟩ : ∃ w, block.unitaryWithResiduals 2 = .ok w := ⟨_, rfl⟩
  obtain ⟨hcircuit, hblock⟩ := unitary_mul_conjTranspose (R := ℝ)
  obtain ⟨hbare, hrotated⟩ := hblock block hdistinct
  exact ⟨hvalid, hdistinct, u, v, w, hu, hcircuit c u hvalid hu, hv, hbare v hv, hw, hrotated w hw⟩

end CircuitDispatch.Unitary
