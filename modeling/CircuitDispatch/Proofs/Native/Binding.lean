import CircuitDispatch.Proofs.Circuit.Binding
import CircuitDispatch.Proofs.Native.PhaseLedger
import CircuitDispatch.Proofs.Sequencing

/-!
# Symbols may be bound before or after lowering

Lowering never needs the value of an angle: it adds, subtracts and simplifies. So a circuit
with free symbols is lowered like the circuit with some of its symbols bound, step by step: both have
the same operations up to angles, the ledgers agree on every qubit (`PhaseLedger.Agree`), and
so do the instructions that come out.

`lower_agrees_bind` says it of whole circuits, in exact arithmetic: both are refused with the
same error, or the two blocks differ by angles that agree (`NativeBlock.Agree`). Their residuals need
not be on the same qubits: a pending rotation that turns out to be zero is dropped from one block and
not from the other, so a qubit without residual is read as one with the residual zero.
-/

namespace CircuitDispatch

variable {R : Type} [ExactScalar R] {values : String → Option R}

/-! ### Ledgers that agree -/

namespace PhaseLedger

/-- Two ledgers that hold something for the same qubits, and angles that agree. -/
def Agree (values : String → Option R) (ledger ledger' : PhaseLedger R) : Prop :=
  ∀ q, Option.Rel (Angle.Agree values) (ledger.phases.get? q) (ledger'.phases.get? q)

theorem agree_empty : Agree values (PhaseLedger.empty : PhaseLedger R) .empty :=
  fun _ => .none

variable {ledger ledger' : PhaseLedger R}

theorem Agree.phase (h : Agree values ledger ledger') (q : Nat) :
    (ledger.phase q).Agree values (ledger'.phase q) := by
  have hq := h q
  unfold PhaseLedger.phase
  generalize ledger.phases.get? q = found at hq ⊢
  generalize ledger'.phases.get? q = found' at hq ⊢
  cases hq with
  | none => exact .refl values _
  | some hphase => exact hphase

/-- **Recording a rotation.** -/
theorem Agree.accumulate (hexact : ExactZeroTest R) (h : Agree values ledger ledger')
    {theta theta' : Angle R} (htheta : theta.Agree values theta') (q : Nat) :
    Agree values (ledger.accumulate q theta) (ledger'.accumulate q theta') := by
  intro p
  by_cases hp : p = q
  · subst hp
    rw [get?_accumulate_self, get?_accumulate_self]
    exact .some (.simplify_add hexact (h.phase p) htheta)
  · rw [get?_accumulate_of_ne hp, get?_accumulate_of_ne hp]
    exact h p

/-- **Shifting an azimuth.** Where nothing is pending in one ledger, nothing is in the other. -/
theorem Agree.shifted (hexact : ExactZeroTest R) (h : Agree values ledger ledger')
    {azimuth azimuth' : Angle R} (hazimuth : azimuth.Agree values azimuth') (q : Nat) :
    (ledger.shifted q azimuth).Agree values (ledger'.shifted q azimuth') := by
  have hq := h q
  unfold PhaseLedger.shifted
  generalize ledger.phases.get? q = found at hq ⊢
  generalize ledger'.phases.get? q = found' at hq ⊢
  cases hq with
  | none => exact hazimuth
  | some hphase => exact .simplify_sub hexact hazimuth hphase

/-- A residual, read as zero where there is none, agrees with what is pending. -/
theorem agree_residual (hexact : ExactZeroTest R) (ledger : PhaseLedger R) (q : Nat) :
    ((ledger.residuals.get? q).getD Angle.zero).Agree values (ledger.phase q) := by
  unfold residuals PhaseLedger.phase
  rw [SortedMap.get?_filter]
  cases ledger.phases.get? q with
  | none => exact .refl values _
  | some a =>
    cases hzero : a.isZero with
    | true =>
      -- dropped, since it is zero
      have hdropped : (some a).filter (fun phase => !phase.isZero) = none :=
        Option.filter_some_neg (by rw [hzero]; decide)
      rw [hdropped]
      exact (Angle.agree_zero_of_isZero hexact hzero).symm
    | false =>
      have hkept : (some a).filter (fun phase => !phase.isZero) = some a :=
        Option.filter_some_pos (by rw [hzero]; rfl)
      rw [hkept]
      exact .refl values _

/-- **Residuals** of ledgers that agree. -/
theorem Agree.residuals (hexact : ExactZeroTest R) (h : Agree values ledger ledger') (q : Nat) :
    ((ledger.residuals.get? q).getD Angle.zero).Agree values
      ((ledger'.residuals.get? q).getD Angle.zero) :=
  ((agree_residual hexact ledger q).trans (h.phase q)).trans (agree_residual hexact ledger' q).symm

end PhaseLedger

/-! ### Instructions and blocks that agree -/

/-- Two gates of one name, with angles that agree. -/
structure NativeGate.Agree (values : String → Option R) (gate gate' : NativeGate R) : Prop where
  name_eq : gate.name = gate'.name
  angles : List.Forall₂ (Angle.Agree values) gate.angles gate'.angles

/-- Two instructions on the same qubits, with gates that agree. -/
structure Instruction.Agree (values : String → Option R) (i i' : Instruction R) : Prop where
  gate : i.gate.Agree values i'.gate
  qubits_eq : i.qubits = i'.qubits

/-- Two blocks that differ by angles that agree. -/
structure NativeBlock.Agree (values : String → Option R) (b b' : NativeBlock R) : Prop where
  family_eq : b.family = b'.family
  instructions : List.Forall₂ (Instruction.Agree values) b.instructions b'.instructions
  placement_eq : b.placement = b'.placement
  measured_eq : b.measured = b'.measured
  /-- A qubit without residual has the residual zero. -/
  residuals : ∀ q, ((b.residuals.get? q).getD Angle.zero).Agree values
    ((b'.residuals.get? q).getD Angle.zero)

/-- The same outcome for an operation, up to angles that agree. -/
inductive Lowered.Agree (values : String → Option R) : Lowered R → Lowered R → Prop where
  | fold (q : Nat) {theta theta' : Angle R} (h : theta.Agree values theta') :
    Agree values (.fold q theta) (.fold q theta')
  | emit {i i' : Instruction R} (h : i.Agree values i') : Agree values (.emit i) (.emit i')
  | skip : Agree values .skip .skip

theorem NativeGate.Agree.refl (values : String → Option R) (gate : NativeGate R) :
    gate.Agree values gate where
  name_eq := rfl
  angles := List.forall₂_same.mpr fun a _ => .refl values a

namespace Family

variable {family : Family} {ledger ledger' : PhaseLedger R}

theorem onQubit_agree {gate gate' : NativeGate R} (h : gate.Agree values gate') (q : Nat) :
    Option.Rel (Lowered.Agree values) (onQubit gate q) (onQubit gate' q) :=
  .some (.emit ⟨h, rfl⟩)

theorem onPair_agree {gate gate' : NativeGate R} (h : gate.Agree values gate')
    (first second : Nat) :
    Option.Rel (Lowered.Agree values) (onPair gate first second) (onPair gate' first second) :=
  .some (.emit ⟨h, rfl⟩)

theorem entangle_agree (hexact : ExactZeroTest R) (h : ledger.Agree values ledger')
    {theta theta' : Angle R} (htheta : theta.Agree values theta') (first second : Nat) :
    Option.Rel (Lowered.Agree values) (entangle ledger first second theta)
      (entangle ledger' first second theta') := by
  have hzero : (Angle.zero : Angle R).Agree values Angle.zero := .refl values _
  have hfirst := h.shifted hexact hzero first
  have hsecond := h.shifted hexact hzero second
  refine onPair_agree ?_ first second
  exact ⟨rfl, .cons hfirst (.cons hsecond (.cons htheta .nil))⟩

/-- **A gate on one qubit** with symbols bound is lowered like the gate itself. -/
theorem lowerSingle?_agree (hexact : ExactZeroTest R) (h : ledger.Agree values ledger')
    (gate : SingleGate R) (q : Nat) :
    Option.Rel (Lowered.Agree values) (family.lowerSingle? ledger gate q)
      (family.lowerSingle? ledger' (gate.mapAngles (Angle.bind values)) q) := by
  cases gate with
  | rotateZ theta =>
    have htheta := Angle.agree_bind values theta
    cases family with
    | ionq | iqm => exact .some (.fold q htheta)
    | rigetti | oqc =>
      refine onQubit_agree ?_ q
      exact ⟨rfl, .cons htheta .nil⟩
  | rotateXY theta phi =>
    have htheta := Angle.agree_bind values theta
    have hphi := h.shifted hexact (Angle.agree_bind values phi) q
    cases family with
    | iqm =>
      refine onQubit_agree ?_ q
      exact ⟨rfl, .cons htheta (.cons hphi .nil)⟩
    | ionq | rigetti | oqc => exact .none
  | gpi theta | gpi2 theta =>
    have htheta := h.shifted hexact (Angle.agree_bind values theta) q
    cases family with
    | ionq =>
      refine onQubit_agree ?_ q
      exact ⟨rfl, .cons htheta .nil⟩
    | rigetti | oqc | iqm => exact .none
  | pauliX | sqrtPauliX =>
    cases family with
    | rigetti | oqc => exact onQubit_agree (.refl values _) q
    | ionq | iqm => exact .none
  | invSqrtPauliX =>
    cases family with
    | rigetti => exact onQubit_agree (.refl values _) q
    | ionq | oqc | iqm => exact .none
  | rotateX | rotateY | pauliY | pauliZ | hadamard =>
    cases family with
    | ionq | rigetti | oqc | iqm => exact .none

/-- **A gate on two qubits** with symbols bound is lowered like the gate itself. -/
theorem lowerPair?_agree (hexact : ExactZeroTest R) (h : ledger.Agree values ledger')
    (gate : PairGate R) (control target : Nat) :
    Option.Rel (Lowered.Agree values) (family.lowerPair? ledger gate control target)
      (family.lowerPair? ledger' (gate.mapAngles (Angle.bind values)) control target) := by
  cases gate with
  | molmerSorensenXX =>
    cases family with
    | ionq => exact entangle_agree hexact h (.refl values _) control target
    | rigetti | oqc | iqm => exact .none
  | variableMSXX theta =>
    cases family with
    | ionq => exact entangle_agree hexact h (Angle.agree_bind values theta) control target
    | rigetti | oqc | iqm => exact .none
  | controlledPhaseShift theta | xy theta =>
    have htheta := Angle.agree_bind values theta
    cases family with
    | rigetti =>
      refine onPair_agree ?_ control target
      exact ⟨rfl, .cons htheta .nil⟩
    | ionq | oqc | iqm => exact .none
  | controlledPauliZ =>
    cases family with
    | rigetti | iqm => exact onPair_agree (.refl values _) control target
    | ionq | oqc => exact .none
  | echoCrossResonance =>
    cases family with
    | oqc => exact onPair_agree (.refl values _) control target
    | ionq | rigetti | iqm => exact .none
  | cnot =>
    cases family with
    | ionq | rigetti | oqc | iqm => exact .none

/-- **One operation** with symbols bound is lowered like the operation itself. -/
theorem lowerOperation?_agree (hexact : ExactZeroTest R) (h : ledger.Agree values ledger')
    (op : Operation R) :
    Option.Rel (Lowered.Agree values) (family.lowerOperation? ledger op)
      (family.lowerOperation? ledger' (op.bind values)) := by
  cases op with
  | single gate q => exact lowerSingle?_agree hexact h gate q
  | pair gate control target => exact lowerPair?_agree hexact h gate control target
  | globalPhase phase =>
    cases family with
    | iqm => exact .some .skip
    | ionq | rigetti | oqc => exact .none
  | define | inputBit | measure | setShots | repeatMeasurement => exact .some .skip

/-- **A list of operations**, from ledgers that agree to ledgers that agree. -/
theorem lowerOperations_agree (hexact : ExactZeroTest R) (h : ledger.Agree values ledger')
    (ops : List (Operation R)) :
    SameOutcome
      (fun result result' => List.Forall₂ (Instruction.Agree values) result.1 result'.1 ∧
        result.2.Agree values result'.2)
      (family.lowerOperations ledger ops)
      (family.lowerOperations ledger' (ops.map (Operation.bind values))) := by
  -- both ledgers change along the operations
  induction ops generalizing ledger ledger' with
  | nil => exact .ok ⟨.nil, h⟩
  | cons op rest ih =>
    have hop : Option.Rel (Lowered.Agree values) (family.lowerOperation? ledger op)
        (family.lowerOperation? ledger' (op.bind values)) := lowerOperation?_agree hexact h op
    rw [List.map_cons, lowerOperations, lowerOperations]
    generalize family.lowerOperation? ledger op = lowered at hop ⊢
    generalize family.lowerOperation? ledger' (op.bind values) = lowered' at hop ⊢
    cases hop with
    | none =>
      -- the error names the operation, and binding does not rename it
      rw [Operation.tag_bind]
      exact .error _
    | some hlowered =>
      cases hlowered with
      | fold q htheta => exact ih (h.accumulate hexact htheta q)
      | skip => exact ih h
      | emit hinstruction =>
        refine (ih h).bind fun result result' hrest => ?_
        exact .ok ⟨.cons hinstruction hrest.1, hrest.2⟩

/-- **Symbols may be bound before or after lowering.** A circuit and the circuit with some of its
symbols bound are refused with the same error, or lowered to blocks that agree. -/
theorem lower_agrees_bind (hexact : ExactZeroTest R) (family : Family) (c : Circuit R)
    (values : String → Option R) :
    SameOutcome (NativeBlock.Agree values) (family.lower c) (family.lower (c.bind values)) := by
  unfold lower
  refine (lowerOperations_agree hexact PhaseLedger.agree_empty c.operations).bind ?_
  rintro ⟨instructions, ledger⟩ ⟨instructions', ledger'⟩ ⟨hinstructions, hledger⟩
  rw [Circuit.qubits_bind]
  refine (SameOutcome.refl (c.qubits.mapM family.place)).bind ?_
  rintro placement _ rfl
  exact .ok ⟨rfl, hinstructions, rfl, rfl, hledger.residuals hexact⟩

/-- An ion that is rotated before and after a gate about an axis, all by symbols. -/
noncomputable def rotatedSymbols : Circuit ExactReal :=
  ⟨[.single (.rotateZ (.symbol "alpha")) 0, .single (.gpi2 (.symbol "beta")) 0,
    .single (.rotateZ (.neg (.symbol "gamma"))) 0]⟩

/-- Bound early, the first rotation vanishes and the pending one is a constant; bound late, both
are sums of symbols. -/
theorem lower_agrees_bind_rotatedSymbols :
    let values : String → Option ExactReal := fun name =>
      if name = "alpha" then some 0 else if name = "gamma" then some 1 else none
    ExactZeroTest ExactReal ∧ ∃ block block' : NativeBlock ExactReal,
      Family.ionq.lower rotatedSymbols = .ok block ∧
      Family.ionq.lower (rotatedSymbols.bind values) = .ok block' ∧
      block.Agree values block' := by
  intro values
  obtain ⟨block, hblock⟩ : ∃ block, Family.ionq.lower rotatedSymbols = .ok block := ⟨_, rfl⟩
  obtain ⟨block', hblock'⟩ : ∃ block', Family.ionq.lower (rotatedSymbols.bind values) = .ok block' :=
    ⟨_, rfl⟩
  have h := lower_agrees_bind exactZeroTest_exactReal .ionq rotatedSymbols values
  rw [hblock, hblock'] at h
  cases h with
  | ok hagree => exact ⟨exactZeroTest_exactReal, block, block', hblock, hblock', hagree⟩

end Family

end CircuitDispatch
