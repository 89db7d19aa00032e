import CircuitDispatch.Proofs.Native.Placement

/-!
# The language of a family

A table and two conditions say what a family does with an operation: it executes it as one of its
gates (`Family.gateFor?`), folds it (`Family.folds`), or lets it through (`Family.letsThrough`). An
operation for which none of these holds is not in its language (`Family.supports`).

Lowering keeps to this, whatever is pending (`Family.lowerOperation?_handled`). So a list of operations
is lowered exactly if all of them are supported, and otherwise the first that is not is reported
(`Family.lowerOperations_of_not_supports`). A circuit has in addition to be placed: the qubits are
looked up in increasing order, so the least one without a place is reported. `lower_outcome` puts
this together.
-/

namespace CircuitDispatch

variable {R : Type}

namespace Family

/-! ### The table -/

/-- The tags of the operations that a family executes, each with its gate. -/
def nativeGates : Family → List (String × String)
  | .ionq =>
    [("GPi", "gpi"), ("GPi2", "gpi2"), ("MolmerSorensenXX", "ms"), ("VariableMSXX", "ms")]
  | .rigetti =>
    [("PauliX", "rx"), ("SqrtPauliX", "rx"), ("InvSqrtPauliX", "rx"), ("RotateZ", "rz"),
      ("ControlledPauliZ", "cz"), ("ControlledPhaseShift", "cphaseshift"), ("XY", "xy")]
  | .oqc =>
    [("RotateZ", "rz"), ("SqrtPauliX", "v"), ("PauliX", "x"), ("EchoCrossResonance", "ecr")]
  | .iqm => [("RotateXY", "prx"), ("ControlledPauliZ", "cz")]

/-- The native gate that an operation is executed as. -/
def gateFor? (family : Family) (op : Operation R) : Option String :=
  family.nativeGates.lookup op.tag

/-- Whether an operation is executed. -/
def executes (family : Family) (op : Operation R) : Bool := (family.gateFor? op).isSome

/-- Whether an operation is recorded and not executed. -/
def folds (family : Family) (op : Operation R) : Bool :=
  family.foldsPhases && op.tag == "RotateZ"

/-- Whether an operation is let through without an instruction. One family accepts phases of the
whole circuit. -/
def letsThrough (family : Family) (op : Operation R) : Bool :=
  op.isPassThrough || (family == .iqm && op.tag == "PragmaGlobalPhase")

/-- Whether an operation is in the language of a family. -/
def supports (family : Family) (op : Operation R) : Bool :=
  family.executes op || family.folds op || family.letsThrough op

/-- An instruction that executes an operation: its gate, on its qubits. -/
structure Executes (family : Family) (op : Operation R) (i : Instruction R) : Prop where
  gate : family.gateFor? op = some i.gate.name
  qubits_eq : i.qubits = op.qubits

/-- What may be made of an operation, by the table and the conditions. -/
inductive Handles (family : Family) (op : Operation R) : Option (Lowered R) → Prop
  | executed {i : Instruction R} (hexecutes : family.Executes op i) :
      Handles family op (some (.emit i))
  | folded {q : Nat} {theta : Angle R} (hgate : family.gateFor? op = none)
      (hfolds : family.folds op = true) : Handles family op (some (.fold q theta))
  | letThrough (hgate : family.gateFor? op = none) (hlets : family.letsThrough op = true) :
      Handles family op (some .skip)
  | refused (hsupports : family.supports op = false) : Handles family op none

theorem Handles.isSome_eq {family : Family} {op : Operation R} {lowered : Option (Lowered R)}
    (h : family.Handles op lowered) : lowered.isSome = family.supports op := by
  cases h with
  | executed hexecutes => rw [supports, executes, hexecutes.gate]; rfl
  | folded _ hfolds => rw [supports, hfolds, Bool.or_true, Bool.true_or]; rfl
  | letThrough _ hlets => rw [supports, hlets, Bool.or_true]; rfl
  | refused hsupports => rw [hsupports]; rfl

variable [Scalar R] {family : Family} {ledger final : PhaseLedger R} {op : Operation R}
  {ops : List (Operation R)} {instructions : List (Instruction R)}

/-- **Lowering keeps to the table**, whatever is pending. -/
theorem lowerOperation?_handled (family : Family) (ledger : PhaseLedger R) (op : Operation R) :
    family.Handles op (family.lowerOperation? ledger op) := by
  -- for each gate, the families that have it come first and those that refuse it last
  cases op with
  | single gate q =>
    cases gate with
    | rotateZ =>
      cases family with
      | ionq | iqm => exact .folded rfl rfl
      | rigetti | oqc => exact .executed ⟨rfl, rfl⟩
    | rotateXY =>
      cases family with
      | iqm => exact .executed ⟨rfl, rfl⟩
      | ionq | rigetti | oqc => exact .refused rfl
    | gpi | gpi2 =>
      cases family with
      | ionq => exact .executed ⟨rfl, rfl⟩
      | rigetti | oqc | iqm => exact .refused rfl
    | pauliX | sqrtPauliX =>
      cases family with
      | rigetti | oqc => exact .executed ⟨rfl, rfl⟩
      | ionq | iqm => exact .refused rfl
    | invSqrtPauliX =>
      cases family with
      | rigetti => exact .executed ⟨rfl, rfl⟩
      | ionq | oqc | iqm => exact .refused rfl
    | rotateX | rotateY | pauliY | pauliZ | hadamard =>
      cases family with
      | ionq | rigetti | oqc | iqm => exact .refused rfl
  | pair gate control target =>
    cases gate with
    | molmerSorensenXX | variableMSXX =>
      cases family with
      | ionq => exact .executed ⟨rfl, rfl⟩
      | rigetti | oqc | iqm => exact .refused rfl
    | controlledPhaseShift | xy =>
      cases family with
      | rigetti => exact .executed ⟨rfl, rfl⟩
      | ionq | oqc | iqm => exact .refused rfl
    | controlledPauliZ =>
      cases family with
      | rigetti | iqm => exact .executed ⟨rfl, rfl⟩
      | ionq | oqc => exact .refused rfl
    | echoCrossResonance =>
      cases family with
      | oqc => exact .executed ⟨rfl, rfl⟩
      | ionq | rigetti | iqm => exact .refused rfl
    | cnot =>
      cases family with
      | ionq | rigetti | oqc | iqm => exact .refused rfl
  | globalPhase =>
    cases family with
    | iqm => exact .letThrough rfl rfl
    | ionq | rigetti | oqc => exact .refused rfl
  | define kind =>
    cases kind with
    | bit | float | complex =>
      cases family with
      | ionq | rigetti | oqc | iqm => exact .letThrough rfl rfl
  | inputBit | measure | setShots | repeatMeasurement =>
    cases family with
    | ionq | rigetti | oqc | iqm => exact .letThrough rfl rfl

/-- An operation has no place exactly if it is not in the language. -/
theorem lowerOperation?_eq_none_iff :
    family.lowerOperation? ledger op = none ↔ family.supports op = false := by
  rw [← (lowerOperation?_handled family ledger op).isSome_eq, Option.isSome_eq_false_iff,
    Option.isNone_iff_eq_none]

/-! ### Operations in order -/

/-- **Operations are lowered exactly if all of them are supported.** -/
theorem exists_lowerOperations_iff (ledger : PhaseLedger R) :
    (∃ result, family.lowerOperations ledger ops = .ok result) ↔
      ∀ op ∈ ops, family.supports op = true := by
  -- an operation changes what is pending for the others, so the induction is over all ledgers
  induction ops generalizing ledger with
  | nil => exact ⟨fun _ => List.forall_mem_nil _, fun _ => ⟨([], ledger), rfl⟩⟩
  | cons op rest ih =>
    rw [List.forall_mem_cons]
    constructor
    · rintro ⟨⟨instructions, final⟩, h⟩
      obtain ⟨lowered, tail, hop, htail, -⟩ := lowerOperations_cons_eq_ok_iff.mp h
      have hsupports := (lowerOperation?_handled family ledger op).isSome_eq
      rw [hop] at hsupports
      exact ⟨hsupports.symm, (ih _).mp ⟨_, htail⟩⟩
    · rintro ⟨hop, hrest⟩
      rw [← (lowerOperation?_handled family ledger op).isSome_eq] at hop
      obtain ⟨lowered, hlowered⟩ := Option.isSome_iff_exists.mp hop
      obtain ⟨⟨tail, final⟩, htail⟩ := (ih (lowered.advance ledger)).mpr hrest
      exact ⟨_, lowerOperations_cons_eq_ok_iff.mpr ⟨lowered, tail, hlowered, htail, rfl⟩⟩

/-- **The first operation that is not supported is reported.** -/
theorem lowerOperations_of_not_supports {before after : List (Operation R)}
    (hbefore : ∀ o ∈ before, family.supports o = true) (hop : family.supports op = false) :
    family.lowerOperations ledger (before ++ op :: after)
      = .error (.unsupportedOperation op.tag family) := by
  induction before generalizing ledger with
  | nil => rw [List.nil_append, lowerOperations, lowerOperation?_eq_none_iff.mpr hop]
  | cons first rest ih =>
    obtain ⟨hfirst, hrest⟩ := List.forall_mem_cons.mp hbefore
    rw [← (lowerOperation?_handled family ledger first).isSome_eq] at hfirst
    obtain ⟨lowered, hlowered⟩ := Option.isSome_iff_exists.mp hfirst
    rw [List.cons_append, lowerOperations, hlowered]
    -- whatever the first one becomes, the error of the rest is passed on
    cases lowered with
    | fold | skip => exact ih hrest
    | emit => exact congrArg (· >>= _) (ih hrest)

/-- **One instruction for each operation that is executed**, and none for the others. -/
theorem forall₂_executes (h : family.lowerOperations ledger ops = .ok (instructions, final)) :
    List.Forall₂ family.Executes (ops.filter family.executes) instructions := by
  induction ops generalizing ledger instructions with
  | nil =>
    cases h
    exact .nil
  | cons op rest ih =>
    obtain ⟨lowered, tail, hop, htail, rfl⟩ := lowerOperations_cons_eq_ok_iff.mp h
    have hhandled := lowerOperation?_handled family ledger op
    rw [hop] at hhandled
    -- the filter lets through what is executed, and this is what leaves an instruction
    cases hhandled with
    | executed hexecutes =>
      have hkept : family.executes op = true := by rw [executes, hexecutes.gate]; rfl
      rw [List.filter_cons_of_pos hkept]
      exact .cons hexecutes (ih htail)
    | folded hgate | letThrough hgate =>
      have hdropped : ¬family.executes op = true := by rw [executes, hgate]; decide
      rw [List.filter_cons_of_neg hdropped]
      exact ih htail

/-! ### Circuits -/

/-- A circuit in the language of a family: every operation is supported, and every qubit has a
place. -/
structure Accepts (family : Family) (c : Circuit R) : Prop where
  supported : ∀ op ∈ c.operations, family.supports op = true
  placed : ∀ q ∈ c.qubits, ∃ i, family.physical? q = some i

/-- What becomes of a circuit. -/
inductive Outcome (family : Family) (c : Circuit R) : Except CompileError (NativeBlock R) → Prop
  /-- The first operation that is not supported is reported, whatever the qubits are. -/
  | unsupported {before after : List (Operation R)} {op : Operation R}
      (hsplit : c.operations = before ++ op :: after)
      (hbefore : ∀ o ∈ before, family.supports o = true) (hop : family.supports op = false) :
      Outcome family c (.error (.unsupportedOperation op.tag family))
  /-- Otherwise the least qubit without a place is reported. -/
  | unmapped {q : Nat} (hops : ∀ op ∈ c.operations, family.supports op = true) (hq : q ∈ c.qubits)
      (hplace : family.physical? q = none)
      (hleast : ∀ p ∈ c.qubits, family.physical? p = none → q ≤ p) :
      Outcome family c (.error (.unmappedQubit family q))
  /-- Otherwise there is one instruction for each operation that is executed, in order. -/
  | lowered {block : NativeBlock R} (haccepts : family.Accepts c)
      (hinstructions : List.Forall₂ family.Executes (c.operations.filter family.executes)
        block.instructions) : Outcome family c (.ok block)

variable {c : Circuit R}

omit [Scalar R] in
/-- Qubits are placed in increasing order, so the least one without a place is the first. -/
theorem least_of_mapM_place_eq_error {e : CompileError}
    (h : c.qubits.mapM family.place = .error e) :
    ∃ q ∈ c.qubits, e = .unmappedQubit family q ∧ family.physical? q = none ∧
      ∀ p ∈ c.qubits, family.physical? p = none → q ≤ p := by
  obtain ⟨before, q, after, hsplit, hbefore, hfails⟩ := exists_of_mapM_eq_error h
  have hsorted := c.pairwise_qubits
  rw [hsplit] at hsorted ⊢
  obtain ⟨-, hafter, -⟩ := List.pairwise_append.mp hsorted
  unfold place at hfails
  split at hfails
  case h_1 => cases hfails
  case h_2 hnone =>
    refine ⟨q, List.mem_append_right before List.mem_cons_self,
      (Except.error.inj hfails).symm, hnone, fun p hp hpnone => ?_⟩
    rcases List.mem_append.mp hp with hp | hp
    · -- what comes before has a place
      obtain ⟨entry, hentry⟩ := hbefore p hp
      obtain ⟨i, hi, -⟩ := place_eq_ok_iff.mp hentry
      rw [hpnone] at hi
      cases hi
    · rcases List.mem_cons.mp hp with rfl | hp
      · exact Nat.le_refl p
      · exact (List.rel_of_pairwise_cons hafter hp).le

/-- Qubits are placed exactly if each has a place. -/
theorem exists_mapM_place_iff {qubits : List Nat} :
    (∃ placement, qubits.mapM family.place = .ok placement) ↔
      ∀ q ∈ qubits, ∃ i, family.physical? q = some i := by
  rw [exists_mapM_eq_ok_iff]
  refine forall₂_congr fun q _ => ?_
  constructor
  · rintro ⟨entry, hentry⟩
    obtain ⟨i, hi, -⟩ := place_eq_ok_iff.mp hentry
    exact ⟨i, hi⟩
  · rintro ⟨i, hi⟩
    exact ⟨(q, i), place_eq_ok_iff.mpr ⟨i, hi, rfl⟩⟩

/-- Operations come before qubits, and qubits before the block. -/
theorem outcome_lower (family : Family) (c : Circuit R) : family.Outcome c (family.lower c) := by
  -- the first operation that is not supported decides, if there is one
  cases hfind : c.operations.find? fun op => !family.supports op with
  | some op =>
    obtain ⟨hop, before, after, hsplit, hbefore⟩ := List.find?_eq_some_iff_append.mp hfind
    simp only [Bool.not_eq_true', Bool.not_not] at hop hbefore
    have hlower : family.lower c = .error (.unsupportedOperation op.tag family) := by
      unfold lower
      rw [hsplit, lowerOperations_of_not_supports hbefore hop]
      rfl
    rw [hlower]
    exact .unsupported hsplit hbefore hop
  | none =>
    have hops : ∀ op ∈ c.operations, family.supports op = true := by
      simpa using List.find?_eq_none.mp hfind
    obtain ⟨⟨instructions, ledger⟩, hlowered⟩ :=
      (exists_lowerOperations_iff .empty).mpr hops
    unfold lower
    rw [hlowered]
    -- all operations are lowered, so only a qubit can be at fault
    cases hplacement : c.qubits.mapM family.place with
    | error e =>
      obtain ⟨q, hq, rfl, hplace, hleast⟩ := least_of_mapM_place_eq_error hplacement
      exact .unmapped hops hq hplace hleast
    | ok placement =>
      have hplaced := exists_mapM_place_iff.mp ⟨placement, hplacement⟩
      exact .lowered ⟨hops, hplaced⟩ (forall₂_executes hlowered)

/-- **A circuit is lowered exactly if it is in the language of the family.** -/
theorem exists_lower_iff_accepts : (∃ block, family.lower c = .ok block) ↔ family.Accepts c := by
  have houtcome := outcome_lower family c
  generalize family.lower c = result at houtcome ⊢
  cases houtcome with
  | unsupported hsplit _ hop =>
    refine iff_of_false nofun fun haccepts => ?_
    have hmem : _ ∈ c.operations := hsplit ▸ List.mem_append_right _ List.mem_cons_self
    rw [haccepts.supported _ hmem] at hop
    cases hop
  | unmapped _ hq hplace =>
    refine iff_of_false nofun fun haccepts => ?_
    obtain ⟨i, hi⟩ := haccepts.placed _ hq
    rw [hplace] at hi
    cases hi
  | lowered haccepts => exact iff_of_true ⟨_, rfl⟩ haccepts

/-- **What becomes of a circuit**: it is lowered exactly if it is in the language of the family, and
otherwise the first offender is reported, operations before qubits. -/
theorem lower_outcome (family : Family) (c : Circuit R) :
    ((∃ block, family.lower c = .ok block) ↔ family.Accepts c) ∧
      family.Outcome c (family.lower c) :=
  ⟨exists_lower_iff_accepts, outcome_lower family c⟩

end Family

end CircuitDispatch
