import CircuitDispatch.Proofs.Native.Azimuths
import CircuitDispatch.Proofs.Native.Language
import CircuitDispatch.Proofs.Native.WellFormed

/-!
# One circuit after another

Whether a circuit is in the language of a family is seen operation by operation and qubit by qubit,
so a circuit that goes on with a second one is in it exactly if both are
(`Family.accepts_append_iff`). Its block is made of their two blocks (`Family.Joins`), but they do not
just stand next to each other: the rotations that the first circuit leaves pending reach the gates of
the second. They show in the azimuths on the qubits that the first one rotates, and nowhere else.
`lower_append` puts this together.
-/

namespace CircuitDispatch

variable {R : Type} [Scalar R]

namespace Family

/-- How a family's block of two circuits in a row is made of their blocks, where the first circuit
rotates some qubits about Z. -/
structure Joins (family : Family) (rotated : List Nat) (x y block : NativeBlock R) : Prop where
  /-- The instructions of the first block stay, and those of the second keep all but their azimuths
  on the rotated qubits. -/
  instructions : ∃ later, block.instructions = x.instructions ++ later ∧
    later.map (Instruction.forget rotated) = y.instructions.map (Instruction.forget rotated)
  /-- A family that rotates about Z by a gate has nothing pending. -/
  unchanged : family = .rigetti ∨ family = .oqc →
    block.instructions = x.instructions ++ y.instructions
  placement_eq : block.placement = x.placement.union y.placement
  measured_eq : block.measured = SortedList.ofList (x.measured ++ y.measured)

variable {family : Family} {a b : Circuit R} {block x y : NativeBlock R}

omit [Scalar R] in
/-- **The language is closed under concatenation**, and under taking the parts. -/
theorem accepts_append_iff :
    family.Accepts (a ++ b) ↔ family.Accepts a ∧ family.Accepts b := by
  have hops : (∀ op ∈ (a ++ b).operations, family.supports op = true) ↔
      (∀ op ∈ a.operations, family.supports op = true) ∧
        ∀ op ∈ b.operations, family.supports op = true := by
    rw [Circuit.operations_append, List.forall_mem_append]
  have hqubits : (∀ q ∈ (a ++ b).qubits, ∃ i, family.physical? q = some i) ↔
      (∀ q ∈ a.qubits, ∃ i, family.physical? q = some i) ∧
        ∀ q ∈ b.qubits, ∃ i, family.physical? q = some i := by
    simp only [Circuit.mem_qubits_append, or_imp, forall_and]
  constructor
  · rintro ⟨hsupported, hplaced⟩
    exact ⟨⟨(hops.mp hsupported).1, (hqubits.mp hplaced).1⟩,
      ⟨(hops.mp hsupported).2, (hqubits.mp hplaced).2⟩⟩
  · rintro ⟨ha, hb⟩
    exact ⟨hops.mpr ⟨ha.supported, hb.supported⟩, hqubits.mpr ⟨ha.placed, hb.placed⟩⟩

/-- **Instructions of two circuits in a row.** The second circuit is lowered with what the first
one leaves pending, on the qubits that it rotates. -/
theorem exists_later_of_lower_append (h : family.lower (a ++ b) = .ok block)
    (hx : family.lower a = .ok x) (hy : family.lower b = .ok y) :
    ∃ later, block.instructions = x.instructions ++ later ∧
      later.map (Instruction.forget a.rotatedQubits)
        = y.instructions.map (Instruction.forget a.rotatedQubits) ∧
      (family.foldsPhases = false → later = y.instructions) := by
  obtain ⟨instructions, final, -, hops, -, rfl⟩ := lower_eq_ok_iff.mp h
  obtain ⟨ofA, between, -, ha, -, rfl⟩ := lower_eq_ok_iff.mp hx
  obtain ⟨ofB, finalB, -, hb, -, rfl⟩ := lower_eq_ok_iff.mp hy
  rw [Circuit.operations_append] at hops
  obtain ⟨earlier, between', later, ha', hlater, rfl⟩ := lowerOperations_append_eq_ok_iff.mp hops
  -- the first part is lowered as the circuit that it is
  cases ha.symm.trans ha'
  refine ⟨later, rfl, ?_, fun hfolds => ?_⟩
  · have hpending : between.SameOff a.rotatedQubits .empty := fun q hq =>
      get?_phases_of_notMem_rotated ha hq
    have hsame := lowerOperations_sameOff family hpending b.operations
    rw [hlater, hb] at hsame
    cases hsame with
    | ok hresults => exact hresults.1
  · rw [final_eq_of_lowerOperations hfolds ha] at hlater
    cases hlater.symm.trans hb
    rfl

/-- **Places of two circuits in a row.** Where both have a qubit, they have it at the same place. -/
theorem placement_of_lower_append (h : family.lower (a ++ b) = .ok block)
    (hx : family.lower a = .ok x) (hy : family.lower b = .ok y) :
    block.placement = x.placement.union y.placement := by
  refine SortedMap.ext_get? fun q => ?_
  rw [SortedMap.get?_union, get?_placement h, get?_placement hx, get?_placement hy]
  simp only [Circuit.mem_qubits_append]
  by_cases ha : q ∈ a.qubits <;> by_cases hb : q ∈ b.qubits <;> simp [ha, hb]

/-- **One circuit after another.** The two in a row are lowered exactly if each is, and then their
block is made of the two blocks. -/
theorem lower_append (family : Family) (a b : Circuit R) :
    ((∃ block, family.lower (a ++ b) = .ok block) ↔
      (∃ x, family.lower a = .ok x) ∧ ∃ y, family.lower b = .ok y) ∧
    ∀ block x y, family.lower (a ++ b) = .ok block → family.lower a = .ok x →
      family.lower b = .ok y → family.Joins a.rotatedQubits x y block := by
  constructor
  · simp only [exists_lower_iff_accepts]
    exact accepts_append_iff
  · intro block x y h hx hy
    obtain ⟨later, hinstructions, hforget, hlater⟩ := exists_later_of_lower_append h hx hy
    exact {
      instructions := ⟨later, hinstructions, hforget⟩
      unchanged := fun hfamily => by
        have hfolds : family.foldsPhases = false := by rcases hfamily with rfl | rfl <;> rfl
        rw [hinstructions, hlater hfolds]
      placement_eq := placement_of_lower_append h hx hy
      measured_eq := by
        rw [measured_of_lower h, measured_of_lower hx, measured_of_lower hy, Circuit.qubits_append] }

/-- An ion that is rotated before the second circuit lets it interact. -/
theorem lower_append_pending :
    ∃ block x y : NativeBlock Float,
      Family.ionq.lower (⟨[.single (.rotateZ (.symbol "alpha")) 0]⟩
        ++ ⟨[.pair (.variableMSXX (.symbol "theta")) 0 1]⟩) = .ok block ∧
      Family.ionq.lower ⟨[.single (.rotateZ (.symbol "alpha")) 0]⟩ = .ok x ∧
      Family.ionq.lower ⟨[.pair (.variableMSXX (.symbol "theta")) 0 1]⟩ = .ok y ∧
      block.instructions = [⟨.ms (.neg (.symbol "alpha")) Angle.zero (.symbol "theta"), [0, 1]⟩] ∧
      y.instructions = [⟨.ms Angle.zero Angle.zero (.symbol "theta"), [0, 1]⟩] ∧
      Family.ionq.Joins [0] x y block := by
  refine ⟨_, _, _, rfl, rfl, rfl, rfl, rfl, ?_⟩
  exact (lower_append .ionq ⟨[.single (.rotateZ (.symbol "alpha")) 0]⟩
    ⟨[.pair (.variableMSXX (.symbol "theta")) 0 1]⟩).2 _ _ _ rfl rfl rfl

end Family

end CircuitDispatch
