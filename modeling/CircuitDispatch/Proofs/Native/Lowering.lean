import CircuitDispatch.Proofs.Native.PhaseLedger
import CircuitDispatch.Proofs.Unitary.Rotation
import CircuitDispatch.Proofs.Unitary.Steps

/-!
# What lowering makes of one gate

A family that folds rotations records every rotation about Z and nothing else
(`lowerOperation?_fold`). The instruction that a family emits for a gate is one that
the pending rotations pass to: doing them before the gate is doing them after the
instruction, up to a phase (`lowerSingle?_passes`, `lowerPair?_passes`). Families that
fold nothing have nothing pending, and there this says that gate and instruction are
equal up to a phase.
-/

namespace CircuitDispatch

open CircuitDispatch.Unitary

namespace Family

variable {R : Type}

/-- Only a family that folds phases folds, and only a rotation about Z. -/
theorem lowerOperation?_fold [Scalar R] {family : Family} {ledger : PhaseLedger R}
    {op : Operation R} {q : Nat} {theta : Angle R}
    (h : family.lowerOperation? ledger op = some (.fold q theta)) :
    family.foldsPhases = true ∧ op = .single (.rotateZ theta) q := by
  unfold lowerOperation? at h
  split at h
  · -- a gate on one qubit: two of the cases fold
    unfold lowerSingle? at h
    split at h <;> cases h
    · exact ⟨rfl, rfl⟩
    · exact ⟨rfl, rfl⟩
  · unfold lowerPair? at h
    split at h <;> cases h
  · split at h <;> cases h
  · cases h

/-- A family that folds phases folds every rotation about Z. -/
theorem lowerOperation?_rotateZ [Scalar R] {family : Family} (hfolds : family.foldsPhases = true)
    (ledger : PhaseLedger R) (theta : Angle R) (q : Nat) :
    family.lowerOperation? ledger (.single (.rotateZ theta) q) = some (.fold q theta) := by
  cases family with
  | ionq => rfl
  | iqm => rfl
  | rigetti => cases hfolds
  | oqc => cases hfolds

variable [ExactScalar R] {n : Nat} {family : Family} {ledger : PhaseLedger R}

/-- A gate that is emitted without looking at the ledger: the family folds nothing, so nothing is
pending. -/
private theorem passes_of_turn_eq_zero {g g' : Single (Amplitude R)} {q : Nat}
    (hzero : ∀ p, ledger.turn p = 0) (h : g.Passes g' 0) : g.Passes g' (ledger.turn q) := by
  rw [hzero q]
  exact h

/-- **Lowering a gate on one qubit.** A rotation is folded, or the pending rotation passes from the
gate to the instruction. -/
theorem lowerSingle?_passes {gate : SingleGate R} {q : Nat} {lowered : Lowered R}
    {g : Single (Amplitude R)} (hlower : family.lowerSingle? ledger gate q = some lowered)
    (hg : ofSingleGate gate = .ok g) (hledger : ledger.Concrete n)
    (hfolds : family.foldsPhases = false → ∀ p, ledger.turn p = 0) :
    (∃ theta v, lowered = .fold q theta ∧ theta.eval? = some v ∧ g = .rz v) ∨
    (∃ native g', lowered = .emit ⟨native, [q]⟩ ∧ ofNativeGate native = .ok (.inl g') ∧
      g.Passes g' (ledger.turn q)) := by
  unfold lowerSingle? at hlower
  split at hlower
  -- the gates of IonQ
  case h_1 theta =>
    obtain ⟨v, hv, hrz⟩ := bind_eq_ok_iff.mp hg
    cases hlower
    cases hrz
    exact Or.inl ⟨theta, v, rfl, Angle.number_eq_ok_iff.mp hv, rfl⟩
  case h_2 theta =>
    obtain ⟨v, hv, hgpi⟩ := bind_eq_ok_iff.mp hg
    cases hlower
    cases hgpi
    have hshift := hledger.eval?_shifted (Angle.number_eq_ok_iff.mp hv) q
    exact Or.inr ⟨_, .gpi (v - ledger.turn q), rfl, Angle.bind_number hshift _, passes_gpi v _⟩
  case h_3 theta =>
    obtain ⟨v, hv, hgpi2⟩ := bind_eq_ok_iff.mp hg
    cases hlower
    cases hgpi2
    have hshift := hledger.eval?_shifted (Angle.number_eq_ok_iff.mp hv) q
    exact Or.inr ⟨_, .gpi2 (v - ledger.turn q), rfl, Angle.bind_number hshift _, passes_gpi2 v _⟩
  -- the gates of Rigetti
  case h_4 =>
    cases hlower
    cases hg
    exact Or.inr ⟨_, .rx Scalar.pi, rfl, rfl, passes_of_turn_eq_zero (hfolds rfl) passes_rx_pi⟩
  case h_5 =>
    cases hlower
    cases hg
    exact Or.inr ⟨_, .rx quarter, rfl, Angle.bind_number Angle.eval?_quarterTurn _,
      passes_of_turn_eq_zero (hfolds rfl) (.refl _)⟩
  case h_6 =>
    cases hlower
    cases hg
    have hturn : (Angle.neg Angle.quarterTurn : Angle R).eval? = some (half (-Scalar.pi)) := by
      rw [Angle.eval?, Angle.eval?_quarterTurn, ExactScalar.half_neg]
      rfl
    exact Or.inr ⟨_, .rx (half (-Scalar.pi)), rfl, Angle.bind_number hturn _,
      passes_of_turn_eq_zero (hfolds rfl) (.refl _)⟩
  case h_7 theta =>
    obtain ⟨v, hv, hrz⟩ := bind_eq_ok_iff.mp hg
    cases hlower
    cases hrz
    exact Or.inr ⟨_, .rz v, rfl, Angle.bind_number (Angle.number_eq_ok_iff.mp hv) _,
      passes_of_turn_eq_zero (hfolds rfl) (.refl _)⟩
  -- the gates of OQC
  case h_8 theta =>
    obtain ⟨v, hv, hrz⟩ := bind_eq_ok_iff.mp hg
    cases hlower
    cases hrz
    exact Or.inr ⟨_, .rz v, rfl, Angle.bind_number (Angle.number_eq_ok_iff.mp hv) _,
      passes_of_turn_eq_zero (hfolds rfl) (.refl _)⟩
  case h_9 =>
    cases hlower
    cases hg
    exact Or.inr ⟨_, .v, rfl, rfl, passes_of_turn_eq_zero (hfolds rfl) passes_v⟩
  case h_10 =>
    cases hlower
    cases hg
    exact Or.inr ⟨_, .x, rfl, rfl, passes_of_turn_eq_zero (hfolds rfl) (.refl _)⟩
  -- the gates of IQM
  case h_11 theta =>
    obtain ⟨v, hv, hrz⟩ := bind_eq_ok_iff.mp hg
    cases hlower
    cases hrz
    exact Or.inl ⟨theta, v, rfl, Angle.number_eq_ok_iff.mp hv, rfl⟩
  case h_12 theta phi =>
    obtain ⟨x, hx, hrest⟩ := bind_eq_ok_iff.mp hg
    obtain ⟨v, hv, hprx⟩ := bind_eq_ok_iff.mp hrest
    cases hlower
    cases hprx
    have hshift := hledger.eval?_shifted (Angle.number_eq_ok_iff.mp hv) q
    refine Or.inr ⟨_, .prx x (v - ledger.turn q), rfl, ?_, passes_prx x v _⟩
    exact (Angle.bind_number (Angle.number_eq_ok_iff.mp hx) _).trans (Angle.bind_number hshift _)
  case h_13 => cases hlower

/-- The Mølmer–Sørensen gate between qubits with pending rotations. -/
private theorem ofNativeGate_entangle (hledger : ledger.Concrete n) {theta : Angle R} {x : R}
    (hx : theta.eval? = some x) (first second : Nat) :
    ofNativeGate (.ms (ledger.shifted first Angle.zero) (ledger.shifted second Angle.zero) theta)
      = .ok (.inr (.ms (0 - ledger.turn first) (0 - ledger.turn second) x)) := by
  have hfirst := hledger.eval?_shifted Angle.eval?_zero first
  have hsecond := hledger.eval?_shifted Angle.eval?_zero second
  -- the three angles have values, one after the other
  rw [ofNativeGate, Angle.bind_number hfirst, Angle.bind_number hsecond, Angle.bind_number hx]
  rfl

private theorem pair_passes_of_turn_eq_zero {g : Pair (Amplitude R)} {p q : Nat}
    (hzero : ∀ p, ledger.turn p = 0) : g.Passes g (ledger.turn p) (ledger.turn q) := by
  rw [hzero p, hzero q]
  exact .refl g

/-- **Lowering a gate on two qubits.** The pending rotations of both pass from the gate to the
instruction. -/
theorem lowerPair?_passes {gate : PairGate R} {control target : Nat} {lowered : Lowered R}
    {g : Pair (Amplitude R)}
    (hlower : family.lowerPair? ledger gate control target = some lowered)
    (hg : ofPairGate gate = .ok g) (hledger : ledger.Concrete n)
    (hfolds : family.foldsPhases = false → ∀ p, ledger.turn p = 0) :
    ∃ native g', lowered = .emit ⟨native, [control, target]⟩ ∧
      ofNativeGate native = .ok (.inr g') ∧
      g.Passes g' (ledger.turn control) (ledger.turn target) := by
  unfold lowerPair? at hlower
  split at hlower
  -- the interactions of IonQ
  case h_1 =>
    cases hlower
    cases hg
    refine ⟨_, _, rfl, ofNativeGate_entangle hledger Angle.eval?_quarterTurn control target, ?_⟩
    rw [ExactScalar.ofNat_zero]
    exact passes_ms _ _ _
  case h_2 theta =>
    obtain ⟨x, hx, hms⟩ := bind_eq_ok_iff.mp hg
    cases hlower
    cases hms
    refine ⟨_, _, rfl,
      ofNativeGate_entangle hledger (Angle.number_eq_ok_iff.mp hx) control target, ?_⟩
    rw [ExactScalar.ofNat_zero]
    exact passes_ms _ _ _
  -- the gates of Rigetti
  case h_3 =>
    cases hlower
    cases hg
    exact ⟨_, .cz, rfl, rfl, passes_cz _ _⟩
  case h_4 theta =>
    obtain ⟨x, hx, hshift⟩ := bind_eq_ok_iff.mp hg
    cases hlower
    cases hshift
    exact ⟨_, .cphaseshift x, rfl, Angle.bind_number (Angle.number_eq_ok_iff.mp hx) _,
      pair_passes_of_turn_eq_zero (hfolds rfl)⟩
  case h_5 theta =>
    obtain ⟨x, hx, hxy⟩ := bind_eq_ok_iff.mp hg
    cases hlower
    cases hxy
    exact ⟨_, .xy x, rfl, Angle.bind_number (Angle.number_eq_ok_iff.mp hx) _,
      pair_passes_of_turn_eq_zero (hfolds rfl)⟩
  -- the gate of OQC
  case h_6 =>
    cases hlower
    cases hg
    exact ⟨_, .ecr, rfl, rfl, pair_passes_of_turn_eq_zero (hfolds rfl)⟩
  -- the gate of IQM
  case h_7 =>
    cases hlower
    cases hg
    exact ⟨_, .cz, rfl, rfl, passes_cz _ _⟩
  case h_8 => cases hlower

end Family

end CircuitDispatch
