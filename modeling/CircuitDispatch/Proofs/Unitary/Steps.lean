import CircuitDispatch.Proofs.Sequencing
import CircuitDispatch.Unitary.OfCircuit

/-!
# Steps of a matrix

When applying a gate, an operation or an instruction to a matrix succeeds, the
qubits are within the matrix and the result is the gate applied to them.
-/

namespace CircuitDispatch.Unitary

variable {R : Type} [Trigonometric R] {n : Nat}

theorem qubit_eq_ok_iff {q : Nat} {p : Fin n} :
    qubit n q = .ok p ↔ ∃ h : q < n, p = ⟨q, h⟩ := by
  unfold qubit
  by_cases h : q < n
  · rw [dif_pos h]
    refine ⟨fun hp => ⟨h, ?_⟩, fun ⟨_, hp⟩ => by rw [hp]⟩
    cases hp
    rfl
  · rw [dif_neg h]
    refine ⟨fun hp => ?_, fun ⟨hq, _⟩ => absurd hq h⟩
    cases hp

namespace Matrix

theorem single_eq_ok_iff {m m' : Matrix R n} {gate : Single (Amplitude R)} {q : Nat} :
    m.single gate q = .ok m' ↔ ∃ h : q < n, m' = m.applySingle gate ⟨q, h⟩ := by
  unfold single
  simp only [bind_eq_ok_iff, qubit_eq_ok_iff, pure_eq_ok_iff]
  constructor
  · rintro ⟨_, ⟨h, rfl⟩, rfl⟩
    exact ⟨h, rfl⟩
  · rintro ⟨h, rfl⟩
    exact ⟨_, ⟨h, rfl⟩, rfl⟩

theorem pair_eq_ok_iff {m m' : Matrix R n} {gate : Pair (Amplitude R)} {first second : Nat} :
    m.pair gate first second = .ok m' ↔
      ∃ (hf : first < n) (hs : second < n),
        m' = m.applyPair Amplitude.zero gate ⟨first, hf⟩ ⟨second, hs⟩ := by
  unfold pair
  simp only [bind_eq_ok_iff, qubit_eq_ok_iff, pure_eq_ok_iff]
  constructor
  · rintro ⟨_, ⟨hf, rfl⟩, _, ⟨hs, rfl⟩, rfl⟩
    exact ⟨hf, hs, rfl⟩
  · rintro ⟨hf, hs, rfl⟩
    exact ⟨_, ⟨hf, rfl⟩, _, ⟨hs, rfl⟩, rfl⟩

theorem operation_single_eq_ok_iff {m m' : Matrix R n} {gate : SingleGate R} {q : Nat} :
    m.operation (.single gate q) = .ok m' ↔
      ∃ g, ofSingleGate gate = .ok g ∧ ∃ h : q < n, m' = m.applySingle g ⟨q, h⟩ := by
  unfold operation
  simp only [bind_eq_ok_iff, single_eq_ok_iff]

theorem operation_pair_eq_ok_iff {m m' : Matrix R n} {gate : PairGate R} {control target : Nat} :
    m.operation (.pair gate control target) = .ok m' ↔
      ∃ g, ofPairGate gate = .ok g ∧ ∃ (hc : control < n) (ht : target < n),
        m' = m.applyPair Amplitude.zero g ⟨control, hc⟩ ⟨target, ht⟩ := by
  unfold operation
  simp only [bind_eq_ok_iff, pair_eq_ok_iff]

/-- A native instruction on one qubit within the matrix applies its gate. -/
theorem instruction_single {m : Matrix R n} {gate : NativeGate R} {g : Single (Amplitude R)}
    (hg : ofNativeGate gate = .ok (.inl g)) (q : Fin n) :
    m.instruction ⟨gate, [q.val]⟩ = .ok (m.applySingle g q) := by
  unfold instruction
  refine bind_eq_ok_iff.mpr ⟨_, hg, ?_⟩
  exact single_eq_ok_iff.mpr ⟨q.isLt, rfl⟩

/-- A native instruction on two qubits within the matrix applies its gate. -/
theorem instruction_pair {m : Matrix R n} {gate : NativeGate R} {g : Pair (Amplitude R)}
    (hg : ofNativeGate gate = .ok (.inr g)) (first second : Fin n) :
    m.instruction ⟨gate, [first.val, second.val]⟩
      = .ok (m.applyPair Amplitude.zero g first second) := by
  unfold instruction
  refine bind_eq_ok_iff.mpr ⟨_, hg, ?_⟩
  exact pair_eq_ok_iff.mpr ⟨first.isLt, second.isLt, rfl⟩

end Matrix

end CircuitDispatch.Unitary
