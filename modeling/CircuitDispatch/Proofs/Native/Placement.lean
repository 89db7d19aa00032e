import CircuitDispatch.Proofs.Circuit.Qubits
import CircuitDispatch.Proofs.Native.Tracking
import CircuitDispatch.Proofs.SortedMap

/-!
# Where a block puts its qubits

A circuit is lowered if its operations are, and then its qubits are placed (`Family.lower_eq_ok_iff`).
The block has a place for every qubit of the circuit and for no other, its place in the family
(`Family.get?_placement`, `Family.of_lower`), and two qubits never share one
(`Family.physical_inj`). Its instructions act on qubits of the circuit only
(`Family.lowerOperations_qubits`), and those of a longer circuit are those of its first part followed
by those of its second (`Family.lowerOperations_append_eq_ok_iff`).
-/

namespace CircuitDispatch

variable {R : Type}

namespace Family

variable {family : Family}

/-! ### Places -/

/-- Octagons do not overlap. -/
theorem octagonIndex?_inj {p q i : Nat} (hp : octagonIndex? p = some i)
    (hq : octagonIndex? q = some i) : p = q := by
  unfold octagonIndex? at hp hq
  grind

/-- Two logical qubits have two places. -/
theorem physical?_inj {p q i : Nat} (hp : family.physical? p = some i)
    (hq : family.physical? q = some i) : p = q := by
  cases family with
  | rigetti => exact octagonIndex?_inj hp hq
  | ionq | oqc | iqm => exact (Option.some.inj hp).trans (Option.some.inj hq).symm

/-- A family that folds phases has a place for every qubit. -/
theorem physical?_of_foldsPhases (hfolds : family.foldsPhases = true) (q : Nat) :
    family.physical? q = some q := by
  cases family with
  | ionq | iqm => rfl
  | rigetti | oqc => cases hfolds

theorem place_eq_ok_iff {q : Nat} {entry : Nat × Nat} :
    family.place q = .ok entry ↔ ∃ i, family.physical? q = some i ∧ entry = (q, i) := by
  unfold place
  cases family.physical? q with
  | none => simp
  | some i => simp [eq_comm]

/-- The placement of qubits, each with its place. -/
private theorem of_mapM_place {qubits : List Nat} {placement : List (Nat × Nat)}
    (h : qubits.mapM family.place = .ok placement) :
    placement.map (·.1) = qubits ∧
      ∀ entry ∈ placement, family.physical? entry.1 = some entry.2 := by
  replace h := mapM_eq_ok_iff.mp h
  induction h with
  | nil => exact ⟨rfl, List.forall_mem_nil _⟩
  | @cons q entry qubits placement hplace _ ih =>
    obtain ⟨i, hi, rfl⟩ := place_eq_ok_iff.mp hplace
    obtain ⟨hkeys, hplaces⟩ := ih
    exact ⟨by rw [List.map_cons, hkeys], List.forall_mem_cons.mpr ⟨hi, hplaces⟩⟩

/-! ### Instructions -/

variable [Scalar R] {ledger final : PhaseLedger R} {instructions : List (Instruction R)}

/-- An instruction acts on the qubits of the operation that it is made of. -/
theorem lowerOperation?_emit_qubits {op : Operation R} {instruction : Instruction R}
    (h : family.lowerOperation? ledger op = some (.emit instruction)) :
    instruction.qubits = op.qubits := by
  unfold lowerOperation? at h
  split at h
  · unfold lowerSingle? onQubit at h
    split at h <;> cases h <;> rfl
  · unfold lowerPair? entangle onPair at h
    split at h <;> cases h <;> rfl
  · split at h <;> cases h
  · cases h

/-- Every instruction is emitted for an operation, with the ledger as it is then. -/
theorem exists_emit_of_mem {ops : List (Operation R)}
    (h : family.lowerOperations ledger ops = .ok (instructions, final)) :
    ∀ i ∈ instructions, ∃ op ∈ ops, ∃ ledger',
      family.lowerOperation? ledger' op = some (.emit i) := by
  induction ops generalizing ledger instructions with
  | nil =>
    cases h
    exact List.forall_mem_nil _
  | cons op rest ih =>
    obtain ⟨lowered, tail, hop, htail, rfl⟩ := lowerOperations_cons_eq_ok_iff.mp h
    intro i hi
    rcases List.mem_append.mp hi with hi | hi
    · cases lowered with
      | emit instruction =>
        obtain rfl := List.mem_singleton.mp hi
        exact ⟨op, List.mem_cons_self, ledger, hop⟩
      | fold | skip => cases hi
    · obtain ⟨op', hop', hemit⟩ := ih htail i hi
      exact ⟨op', List.mem_cons_of_mem op hop', hemit⟩

/-- The instructions of some operations act on qubits that these name. -/
theorem lowerOperations_qubits {ops : List (Operation R)}
    (h : family.lowerOperations ledger ops = .ok (instructions, final)) :
    ∀ i ∈ instructions, ∀ q ∈ i.qubits, ∃ op ∈ ops, q ∈ op.qubits := by
  intro i hi q hq
  obtain ⟨op, hop, _, hemit⟩ := exists_emit_of_mem h i hi
  rw [lowerOperation?_emit_qubits hemit] at hq
  exact ⟨op, hop, hq⟩

/-- **Lowering goes through the operations in order**: first through the first part, then through
the second, with the ledger that the first leaves. -/
theorem lowerOperations_append_eq_ok_iff {ops ops' : List (Operation R)} :
    family.lowerOperations ledger (ops ++ ops') = .ok (instructions, final) ↔
      ∃ earlier between later, family.lowerOperations ledger ops = .ok (earlier, between) ∧
        family.lowerOperations between ops' = .ok (later, final) ∧
        instructions = earlier ++ later := by
  induction ops generalizing ledger instructions with
  | nil => simp [lowerOperations]
  | cons op rest ih =>
    simp only [List.cons_append, lowerOperations_cons_eq_ok_iff, ih]
    constructor
    · rintro ⟨lowered, _, hop, ⟨earlier, between, later, hrest, hlater, rfl⟩, rfl⟩
      exact ⟨_, between, later, ⟨lowered, earlier, hop, hrest, rfl⟩, hlater,
        (List.append_assoc ..).symm⟩
    · rintro ⟨_, between, later, ⟨lowered, earlier, hop, hrest, rfl⟩, hlater, rfl⟩
      exact ⟨lowered, _, hop, ⟨earlier, between, later, hrest, hlater, rfl⟩,
        List.append_assoc ..⟩

/-! ### Blocks -/

variable {c : Circuit R} {block : NativeBlock R}

/-- **Lowering a circuit**: its operations are lowered, and its qubits are placed. -/
theorem lower_eq_ok_iff : family.lower c = .ok block ↔
    ∃ instructions ledger placement,
      family.lowerOperations .empty c.operations = .ok (instructions, ledger) ∧
      c.qubits.mapM family.place = .ok placement ∧
      block = ⟨family, instructions, .ofList placement, c.qubits, ledger.residuals⟩ := by
  constructor
  · intro h
    obtain ⟨⟨instructions, ledger⟩, hops, hrest⟩ := bind_eq_ok_iff.mp h
    obtain ⟨placement, hplacement, hblock⟩ := bind_eq_ok_iff.mp hrest
    exact ⟨instructions, ledger, placement, hops, hplacement, (pure_eq_ok_iff.mp hblock).symm⟩
  · rintro ⟨instructions, ledger, placement, hops, hplacement, rfl⟩
    exact bind_eq_ok_iff.mpr ⟨_, hops, bind_eq_ok_iff.mpr ⟨placement, hplacement, rfl⟩⟩

/-- All qubits of a lowered circuit are measured. -/
theorem measured_of_lower (h : family.lower c = .ok block) : block.measured = c.qubits := by
  obtain ⟨_, _, _, -, -, rfl⟩ := lower_eq_ok_iff.mp h
  rfl

/-- The placement of a lowered circuit has its qubits, in increasing order, each with its place. -/
theorem placement_of_lower (h : family.lower c = .ok block) :
    block.placement.keys = c.qubits ∧
      ∀ entry ∈ block.placement.entries, family.physical? entry.1 = some entry.2 := by
  obtain ⟨instructions, ledger, placement, -, hplacement, rfl⟩ := lower_eq_ok_iff.mp h
  obtain ⟨hkeys, hplaces⟩ := of_mapM_place hplacement
  -- the qubits are sorted, so the placement is, too, and is kept as it is
  have hsorted : placement.Pairwise fun a b => compare a.1 b.1 = .lt := by
    have hqubits := c.pairwise_qubits
    rw [← hkeys, List.pairwise_map] at hqubits
    exact hqubits.imp Nat.compare_eq_lt.mpr
  have hentries : (SortedMap.ofList placement).entries = placement :=
    congrArg SortedMap.entries (SortedMap.ofList_entries ⟨placement, hsorted⟩)
  rw [SortedMap.keys, hentries]
  exact ⟨hkeys, hplaces⟩

/-- **What is found in the placement** of a lowered circuit: the places of its qubits. -/
theorem get?_placement (h : family.lower c = .ok block) (q : Nat) :
    block.placement.get? q = if q ∈ c.qubits then family.physical? q else none := by
  obtain ⟨hkeys, hplaces⟩ := placement_of_lower h
  rw [← hkeys]
  split
  case isTrue hq =>
    obtain ⟨⟨q, i⟩, hentry, rfl⟩ := List.mem_map.mp hq
    rw [SortedMap.get?_eq_some_iff.mpr hentry, hplaces (q, i) hentry]
  case isFalse hq =>
    refine Option.eq_none_iff_forall_ne_some.mpr fun i hi => hq ?_
    exact List.mem_map_of_mem (SortedMap.get?_eq_some_iff.mp hi)

/-- **A lowered circuit.** The instructions come from the operations in order, the measured qubits
are the qubits of the circuit, and each of these has its place. -/
theorem of_lower (h : family.lower c = .ok block) : ∃ ledger,
    family.lowerOperations .empty c.operations = .ok (block.instructions, ledger) ∧
      block.measured = c.qubits ∧
      ∀ q ∈ c.qubits, family.physical? q = some (block.physical q) := by
  obtain ⟨hkeys, hplaces⟩ := placement_of_lower h
  obtain ⟨instructions, ledger, placement, hops, -, rfl⟩ := lower_eq_ok_iff.mp h
  refine ⟨ledger, hops, rfl, fun q hq => ?_⟩
  rw [← hkeys] at hq
  obtain ⟨⟨q, i⟩, hentry, rfl⟩ := List.mem_map.mp hq
  rw [NativeBlock.physical, SortedMap.get?_eq_some_iff.mpr hentry]
  exact hplaces (q, i) hentry

/-- **Two qubits of a lowered circuit are two physical qubits.** -/
theorem physical_inj (h : family.lower c = .ok block) {p q : Nat} (hp : p ∈ c.qubits)
    (hq : q ∈ c.qubits) : block.physical p = block.physical q ↔ p = q := by
  obtain ⟨-, -, -, hplaces⟩ := of_lower h
  refine ⟨fun heq => ?_, fun heq => by rw [heq]⟩
  have hplace := hplaces p hp
  rw [heq] at hplace
  exact physical?_inj hplace (hplaces q hq)

end Family

end CircuitDispatch
