import CircuitDispatch.Proofs.Native.Tracking

/-!
# Lowered circuits do what the circuit does

Whatever a family lowers a circuit to, the block and then the rotations left over are
the circuit, up to a phase (`lower_preserves_unitary`). The rotations left over may be
dropped: the circuit is a diagonal matrix of phases after the block, so from every basis
state every outcome is as likely (`lower_preserves_outcomes`). The first statement asks that no
rotation is lost to the tolerance; the second needs no such condition, since a lost
rotation is one more of the diagonal phases.

Both are read off the invariant of lowering at the end of the circuit (`lower_tracks`).
-/

namespace CircuitDispatch

open CircuitDispatch.Unitary

variable {R : Type} [ExactScalar R] {n : Nat}

/-- The probability of an event, a set of outcomes of measuring all qubits, from a basis state. -/
def Unitary.Matrix.probability (m : Unitary.Matrix R n) (input : Basis n)
    (event : Finset (Basis n)) : R :=
  ∑ r ∈ event, (m.entry r input).normSq

/-- Two ions, of which the first is rotated between a quarter turn and their interaction. -/
noncomputable def rotatedPair : Circuit ℝ :=
  ⟨[.single (.gpi2 (.constant 0)) 0, .single (.rotateZ (.constant 1)) 0,
    .pair .molmerSorensenXX 0 1]⟩

/-- Pending rotations on qubits of the matrix can be applied one after the other; together they
rotate every qubit by all that is pending on it. -/
theorem Unitary.Matrix.foldlM_residual {entries : List (Nat × Angle R)}
    (hentries : ∀ e ∈ entries, e.1 < n ∧ ∃ v, e.2.eval? = some v) (m : Unitary.Matrix R n) :
    ∃ m', entries.foldlM Matrix.residual m = .ok m' ∧ m'.toOperator
      = zRotations (fun q => (entries.map fun e => if q == e.1 then e.2.eval?.getD 0 else 0).sum)
        * m.toOperator := by
  induction entries generalizing m with
  | nil =>
    refine ⟨m, rfl, ?_⟩
    simp only [List.map_nil, List.sum_nil]
    rw [zRotations_zero, Matrix.one_mul]
  | cons e rest ih =>
    obtain ⟨q, a⟩ := e
    obtain ⟨hq, v, hv⟩ := hentries (q, a) List.mem_cons_self
    have hstep : Matrix.residual m (q, a) = .ok (m.applySingle (.rz v) ⟨q, hq⟩) := by
      refine (Angle.bind_number hv _).trans ?_
      exact Matrix.single_eq_ok_iff.mpr ⟨hq, rfl⟩
    obtain ⟨m', hm', heq⟩ :=
      ih (fun e he => hentries e (List.mem_cons_of_mem _ he)) (m.applySingle (.rz v) ⟨q, hq⟩)
    refine ⟨m', foldlM_cons_eq_ok_iff.mpr ⟨_, hstep, hm'⟩, ?_⟩
    -- the first rotation joins the others, which commute with it
    rw [heq, Dense.toOperator_applySingle, lift_rz, ← Matrix.mul_assoc, ← zRotations_add]
    refine congrArg (fun theta => zRotations theta * m.toOperator) (funext fun p => ?_)
    simp only [List.map_cons, List.sum_cons, beq_iff_eq, hv, Option.getD_some]
    exact add_comm _ _

namespace Family

variable {family : Family} {c : Circuit R} {u : Unitary.Matrix R n} {block : NativeBlock R}

/-- At the end of the circuit the family has kept track. -/
theorem lower_tracks (hvalid : ∀ op ∈ c.operations, op.validate = .ok ())
    (hu : c.unitary n = .ok u) (hlower : family.lower c = .ok block) :
    ∃ ledger b, block.residuals = ledger.residuals ∧ block.unitary n = .ok b ∧
      family.Tracks c.netTurn ledger u b := by
  obtain ⟨⟨instructions, ledger⟩, hops, hrest⟩ := bind_eq_ok_iff.mp hlower
  obtain ⟨placement, -, hblock⟩ := bind_eq_ok_iff.mp hrest
  cases hblock
  obtain ⟨b, hb, htracks⟩ := (Tracks.start family).run hvalid hu hops
  exact ⟨ledger, b, rfl, hb, htracks.congr_turns fun _ q => (zero_add (c.netTurn q)).symm⟩

/-- **Lowering preserves the matrix.** Unless what a circuit rotates some qubit by is negligible
without being zero, the block with its residual rotations has the matrix of the circuit, up to a
phase. -/
theorem lower_preserves_unitary (hvalid : ∀ op ∈ c.operations, op.validate = .ok ())
    (hu : c.unitary n = .ok u) (hlower : family.lower c = .ok block)
    (hsmall : ∀ q, Scalar.negligible (c.netTurn q) = true → c.netTurn q = 0) :
    ∃ v, block.unitaryWithResiduals n = .ok v ∧
      ∃ w : Amplitude R, w.normSq = 1 ∧ ∀ r s, v.entry r s = w * u.entry r s := by
  obtain ⟨ledger, b, hres, hb, htracks⟩ := lower_tracks hvalid hu hlower
  -- what is pending is the circuit's rotation or nothing, so the tolerance loses none of it
  have hpending : ∀ q, Scalar.negligible (ledger.turn q) = true → ledger.turn q = 0 := by
    intro q hq
    have hturn := htracks.turn_eq q
    by_cases hfolds : family.foldsPhases = true
    · rw [if_pos hfolds] at hturn
      rw [hturn] at hq ⊢
      exact hsmall q hq
    · rw [if_neg hfolds] at hturn
      exact hturn
  obtain ⟨v, hv, hveq⟩ := Matrix.foldlM_residual htracks.concrete.residuals b
  have hsum := funext (htracks.concrete.sum_residuals hpending)
  rw [hsum] at hveq
  obtain ⟨w, hw, hueq⟩ := htracks.eq
  obtain ⟨w', hw', hinv⟩ := hw.exists_inverse
  refine ⟨v, ?_, w', hw', fun r s => ?_⟩
  · unfold NativeBlock.unitaryWithResiduals
    rw [hres]
    exact bind_eq_ok_iff.mpr ⟨b, hb, hv⟩
  · have hvu : v.toOperator = w' • u.toOperator := by
      rw [hueq, smul_smul, hinv, one_smul, hveq]
    exact congrFun (congrFun hvu r) s

/-- The matrices of a rotated pair of ions agree, with a whole rotation left over on the first. -/
theorem lower_preserves_unitary_rotatedPair :
    ∃ (block : NativeBlock ℝ) (u v : Unitary.Matrix ℝ 2),
      Family.ionq.lower rotatedPair = .ok block ∧ rotatedPair.unitary 2 = .ok u ∧
      block.unitaryWithResiduals 2 = .ok v ∧
      ∃ w : Amplitude ℝ, w.normSq = 1 ∧ ∀ r s, v.entry r s = w * u.entry r s := by
  have hsmall : ∀ q, Scalar.negligible (rotatedPair.netTurn q) = true →
      rotatedPair.netTurn q = 0 := by
    intro q hq
    have hturn : rotatedPair.netTurn q = if q = 0 then 1 else 0 := by
      simp [Circuit.netTurn, rotatedPair, Operation.turn, Angle.eval?]
    rw [hturn] at hq ⊢
    by_cases h0 : q = 0
    · -- one is not below the tolerance
      rw [if_pos h0] at hq
      have hone : |(1 : ℝ)| < 1e-12 := of_decide_eq_true hq
      norm_num at hone
    · rw [if_neg h0]
  have hvalid : ∀ op ∈ rotatedPair.operations, op.validate = .ok () := by
    simp [rotatedPair, Operation.validate]
  obtain ⟨block, hlower⟩ : ∃ block, Family.ionq.lower rotatedPair = .ok block := ⟨_, rfl⟩
  obtain ⟨u, hu⟩ : ∃ u, rotatedPair.unitary 2 = .ok u := ⟨_, rfl⟩
  obtain ⟨v, hv, hphase⟩ := lower_preserves_unitary hvalid hu hlower hsmall
  exact ⟨block, u, v, hlower, hu, hv, hphase⟩

/-- **Residuals may be dropped.** The circuit is a diagonal matrix of phases after the bare block.
So every entry has the same modulus, and from every basis state every event has the same
probability. -/
theorem lower_preserves_outcomes (hvalid : ∀ op ∈ c.operations, op.validate = .ok ())
    (hu : c.unitary n = .ok u) (hlower : family.lower c = .ok block) :
    ∃ b, block.unitary n = .ok b ∧
      (∃ d : Basis n → Amplitude R, (∀ r, (d r).normSq = 1) ∧
        u.toOperator = Matrix.diagonal d * b.toOperator) ∧
      (∀ r s, (u.entry r s).normSq = (b.entry r s).normSq) ∧
      ∀ input event, u.probability input event = b.probability input event := by
  obtain ⟨ledger, b, -, hb, htracks⟩ := lower_tracks hvalid hu hlower
  obtain ⟨w, hw, hueq⟩ := htracks.eq
  -- the pending rotations and the phase, as one diagonal
  set d : Basis n → Amplitude R := fun r => w * Amplitude.phase (rotationAngle ledger.turn r)
    with hd
  have hphases : ∀ r, (d r).normSq = 1 := fun r => hw.mul (Amplitude.isPhase_phase _)
  have hdiag : u.toOperator = Matrix.diagonal d * b.toOperator := by
    ext1 r s
    rw [hueq, zRotations, Matrix.smul_apply, Matrix.diagonal_mul, Matrix.diagonal_mul, smul_eq_mul,
      hd, mul_assoc]
  have hentry : ∀ r s, (u.entry r s).normSq = (b.entry r s).normSq := by
    intro r s
    have hrs : u.entry r s = d r * b.entry r s := by
      have h := congrFun (congrFun hdiag r) s
      rwa [Matrix.diagonal_mul] at h
    rw [hrs, Amplitude.IsPhase.normSq_mul (hphases r)]
  refine ⟨b, hb, ⟨d, hphases, hdiag⟩, hentry, fun input event => ?_⟩
  exact Finset.sum_congr rfl fun r _ => hentry r input

/-- The rotation left over on a rotated pair of ions does not show in the outcomes. -/
theorem lower_preserves_outcomes_rotatedPair :
    ∃ (block : NativeBlock ℝ) (u b : Unitary.Matrix ℝ 2),
      Family.ionq.lower rotatedPair = .ok block ∧ rotatedPair.unitary 2 = .ok u ∧
      block.unitary 2 = .ok b ∧
      ∀ input event, u.probability input event = b.probability input event := by
  have hvalid : ∀ op ∈ rotatedPair.operations, op.validate = .ok () := by
    simp [rotatedPair, Operation.validate]
  obtain ⟨block, hlower⟩ : ∃ block, Family.ionq.lower rotatedPair = .ok block := ⟨_, rfl⟩
  obtain ⟨u, hu⟩ : ∃ u, rotatedPair.unitary 2 = .ok u := ⟨_, rfl⟩
  obtain ⟨b, hb, -, -, houtcomes⟩ := lower_preserves_outcomes hvalid hu hlower
  exact ⟨block, u, b, hlower, hu, hb, houtcomes⟩

end Family

end CircuitDispatch
