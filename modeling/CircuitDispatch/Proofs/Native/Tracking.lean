import CircuitDispatch.Proofs.Native.Lowering

/-!
# The circuit so far, the block so far and the pending rotations

`Family.Tracks` is the invariant of lowering: up to a phase, the matrix of the
operations read so far is the matrix of the instructions emitted so far, followed by
the rotations that the ledger holds. One operation preserves it, whatever the family makes
of the operation (`Tracks.step`), so a whole list of operations does (`Tracks.run`).

The invariant also accounts for the rotations: a family that folds them has all of them in
the ledger, and any other family has none (`Tracks.turn_eq`).
-/

namespace CircuitDispatch

open CircuitDispatch.Unitary

variable {R : Type}

/-! ### Rotations about Z in a circuit -/

/-- The rotation about Z that an operation asks for on a qubit. -/
def Operation.turn [ExactScalar R] (op : Operation R) (q : Nat) : R :=
  match op with
  | .single (.rotateZ theta) p => if q = p then theta.eval?.getD 0 else 0
  | _ => 0

/-- All that a circuit asks to rotate a qubit about Z. -/
def Circuit.netTurn [ExactScalar R] (c : Circuit R) (q : Nat) : R :=
  (c.operations.map (Operation.turn · q)).sum

/-! ### What one lowered operation does -/

namespace Lowered

/-- The instructions that a lowered operation leaves behind. -/
def instructions : Lowered R → List (Instruction R)
  | .emit instruction => [instruction]
  | _ => []

/-- The ledger after a lowered operation. -/
def advance [Scalar R] (ledger : PhaseLedger R) : Lowered R → PhaseLedger R
  | .fold q theta => ledger.accumulate q theta
  | _ => ledger

end Lowered

namespace Family

/-- **Lowering one operation and the rest.** -/
theorem lowerOperations_cons_eq_ok_iff [Scalar R] {family : Family} {ledger final : PhaseLedger R}
    {op : Operation R} {rest : List (Operation R)} {instructions : List (Instruction R)} :
    family.lowerOperations ledger (op :: rest) = .ok (instructions, final) ↔
      ∃ lowered tail, family.lowerOperation? ledger op = some lowered ∧
        family.lowerOperations (lowered.advance ledger) rest = .ok (tail, final) ∧
        instructions = lowered.instructions ++ tail := by
  rw [lowerOperations]
  cases hop : family.lowerOperation? ledger op with
  | none => simp
  | some lowered =>
    cases lowered with
    | fold q theta => simp [Lowered.advance, Lowered.instructions]
    | skip => simp [Lowered.advance, Lowered.instructions]
    | emit instruction =>
      -- the only case in which something is done with the rest
      simp only [bind_eq_ok_iff, pure_eq_ok_iff, Prod.exists, Prod.mk.injEq, Option.some.injEq,
        Lowered.advance, Lowered.instructions]
      constructor
      · rintro ⟨tail, _, htail, rfl, rfl⟩
        exact ⟨_, tail, rfl, htail, rfl⟩
      · rintro ⟨_, tail, rfl, htail, rfl⟩
        exact ⟨tail, final, htail, rfl, rfl⟩

/-! ### The invariant -/

variable [ExactScalar R] {n : Nat}

/-- **The invariant of lowering.** The operations read so far, with matrix `u` and rotations
`turns`, are the instructions emitted so far, with matrix `b`, and then the pending rotations. -/
structure Tracks (family : Family) (turns : Nat → R) (ledger : PhaseLedger R)
    (u b : Unitary.Matrix R n) : Prop where
  /-- Everything pending is a number on a qubit of the matrices. -/
  concrete : ledger.Concrete n
  /-- All rotations are pending, or none. -/
  turn_eq : ∀ q, ledger.turn q = if family.foldsPhases = true then turns q else 0
  /-- The two matrices differ by the pending rotations and a phase. -/
  eq : ∃ w : Amplitude R, w.IsPhase ∧
    u.toOperator = w • (zRotations ledger.turn * b.toOperator)

namespace Tracks

variable {family : Family} {turns : Nat → R} {ledger : PhaseLedger R}
  {u u' b b' : Unitary.Matrix R n}

theorem turn_eq_zero (h : family.Tracks turns ledger u b) (hfolds : family.foldsPhases = false)
    (q : Nat) : ledger.turn q = 0 := by
  rw [h.turn_eq, hfolds, if_neg Bool.false_ne_true]

/-- Before the first operation there is nothing to track. -/
theorem start (family : Family) :
    family.Tracks (fun _ => (0 : R)) .empty (Matrix.identity n) (Matrix.identity n) where
  concrete := PhaseLedger.concrete_empty
  turn_eq q := by rw [PhaseLedger.turn_empty, ite_self]
  eq := by
    refine ⟨1, Amplitude.IsPhase.one, ?_⟩
    have hzero : (PhaseLedger.empty : PhaseLedger R).turn = fun _ => 0 :=
      funext PhaseLedger.turn_empty
    rw [hzero, zRotations_zero, one_smul, Matrix.one_mul]

/-- The invariant looks at the values of the rotations only. -/
theorem congr_turns {turns' : Nat → R} (h : family.Tracks turns ledger u b)
    (hturns : family.foldsPhases = true → ∀ q, turns' q = turns q) :
    family.Tracks turns' ledger u b where
  concrete := h.concrete
  turn_eq q := by
    rw [h.turn_eq]
    by_cases hfolds : family.foldsPhases = true
    · rw [if_pos hfolds, if_pos hfolds, hturns hfolds q]
    · rw [if_neg hfolds, if_neg hfolds]
  eq := h.eq

/-- **Folding.** A rotation goes from the circuit to the ledger. -/
theorem fold (h : family.Tracks turns ledger u b) (hfolds : family.foldsPhases = true)
    {theta : Angle R} {v : R} (hv : theta.eval? = some v) (q : Fin n) :
    family.Tracks (fun p => turns p + if p = q then v else 0) (ledger.accumulate q theta)
      (u.applySingle (.rz v) q) b where
  concrete := h.concrete.accumulate hv q.isLt
  turn_eq p := by
    rw [PhaseLedger.turn_accumulate h.concrete hv, h.turn_eq, if_pos hfolds, if_pos hfolds]
  eq := by
    obtain ⟨w, hw, heq⟩ := h.eq
    refine ⟨w, hw, ?_⟩
    have hturn : (ledger.accumulate q theta).turn
        = fun p : Nat => (if p = q then v else 0) + ledger.turn p := by
      funext p
      rw [PhaseLedger.turn_accumulate h.concrete hv, add_comm]
    calc (u.applySingle (.rz v) q).toOperator
        = (Single.rz v).lift q * (w • (zRotations ledger.turn * b.toOperator)) := by
          rw [Dense.toOperator_applySingle, heq]
      _ = w • ((Single.rz v).lift q * zRotations ledger.turn * b.toOperator) := by
          rw [Matrix.mul_smul, Matrix.mul_assoc]
      _ = w • (zRotations (ledger.accumulate q theta).turn * b.toOperator) := by
          rw [lift_rz, ← zRotations_add, hturn]

/-- **Emitting.** The pending rotations pass from the gate of the circuit to the instruction. -/
theorem emit (h : family.Tracks turns ledger u b) {G G' : Operator (Amplitude R) n}
    (hpass : ∃ w : Amplitude R, w.IsPhase ∧
      G * zRotations ledger.turn = w • (zRotations ledger.turn * G'))
    (hu : u'.toOperator = G * u.toOperator) (hb : b'.toOperator = G' * b.toOperator) :
    family.Tracks turns ledger u' b' where
  concrete := h.concrete
  turn_eq := h.turn_eq
  eq := by
    obtain ⟨w, hw, heq⟩ := h.eq
    obtain ⟨w', hw', hG⟩ := hpass
    refine ⟨w * w', hw.mul hw', ?_⟩
    calc u'.toOperator
        = w • (G * zRotations ledger.turn * b.toOperator) := by
          rw [hu, heq, Matrix.mul_smul, Matrix.mul_assoc]
      _ = (w * w') • (zRotations ledger.turn * (G' * b.toOperator)) := by
          rw [hG, Matrix.smul_mul, smul_smul, Matrix.mul_assoc]
      _ = (w * w') • (zRotations ledger.turn * b'.toOperator) := by rw [hb]

/-- **One operation on one qubit.** -/
private theorem step_single (h : family.Tracks turns ledger u b) {gate : SingleGate R} {q : Nat}
    {lowered : Lowered R} (hu : u.operation (.single gate q) = .ok u')
    (hlower : family.lowerOperation? ledger (.single gate q) = some lowered) :
    ∃ b', lowered.instructions.foldlM Matrix.instruction b = .ok b' ∧
      family.Tracks (fun p => turns p + (Operation.single gate q).turn p)
        (lowered.advance ledger) u' b' := by
  obtain ⟨g, hg, hq, rfl⟩ := Matrix.operation_single_eq_ok_iff.mp hu
  rcases lowerSingle?_passes hlower hg h.concrete h.turn_eq_zero with
    ⟨theta, v, rfl, hv, rfl⟩ | ⟨native, g', rfl, hg', hpasses⟩
  · -- a rotation, which the ledger takes over
    obtain ⟨hfolds, hop⟩ := lowerOperation?_fold hlower
    refine ⟨b, rfl, ?_⟩
    have hturn : ∀ p, (Operation.single gate q).turn p = if p = q then v else 0 := by
      intro p
      rw [hop, Operation.turn, hv, Option.getD_some]
    simp only [hturn]
    exact h.fold hfolds hv ⟨q, hq⟩
  · refine ⟨b.applySingle g' ⟨q, hq⟩, ?_, ?_⟩
    · exact foldlM_cons_eq_ok_iff.mpr ⟨_, Matrix.instruction_single hg' ⟨q, hq⟩, rfl⟩
    · have htracks := h.emit (hpasses.lift (q := ⟨q, hq⟩)) (Dense.toOperator_applySingle u g _)
        (Dense.toOperator_applySingle b g' _)
      refine htracks.congr_turns fun hfolds p => ?_
      -- a family that folds would have folded a rotation about Z
      have hturn : (Operation.single gate q).turn p = 0 := by
        unfold Operation.turn
        split
        · rename_i theta _ hop
          rw [hop, lowerOperation?_rotateZ hfolds] at hlower
          cases hlower
        · rfl
      rw [hturn, add_zero]

/-- **One operation on two qubits.** -/
private theorem step_pair (h : family.Tracks turns ledger u b) {gate : PairGate R}
    {control target : Nat} {lowered : Lowered R} (hne : control ≠ target)
    (hu : u.operation (.pair gate control target) = .ok u')
    (hlower : family.lowerOperation? ledger (.pair gate control target) = some lowered) :
    ∃ b', lowered.instructions.foldlM Matrix.instruction b = .ok b' ∧
      family.Tracks turns (lowered.advance ledger) u' b' := by
  obtain ⟨g, hg, hc, ht, rfl⟩ := Matrix.operation_pair_eq_ok_iff.mp hu
  obtain ⟨native, g', rfl, hg', hpasses⟩ :=
    lowerPair?_passes hlower hg h.concrete h.turn_eq_zero
  have hne' : (⟨control, hc⟩ : Fin n) ≠ ⟨target, ht⟩ := fun heq => hne (Fin.mk.inj heq)
  refine ⟨b.applyPair Amplitude.zero g' ⟨control, hc⟩ ⟨target, ht⟩, ?_, ?_⟩
  · exact foldlM_cons_eq_ok_iff.mpr
      ⟨_, Matrix.instruction_pair hg' ⟨control, hc⟩ ⟨target, ht⟩, rfl⟩
  · exact h.emit (hpasses.lift hne') (Dense.toOperator_applyPair u g hne')
      (Dense.toOperator_applyPair b g' hne')

/-- **The step.** Whatever a family makes of an operation, it keeps track. -/
theorem step (h : family.Tracks turns ledger u b) {op : Operation R} {lowered : Lowered R}
    (hvalid : op.validate = .ok ()) (hu : u.operation op = .ok u')
    (hlower : family.lowerOperation? ledger op = some lowered) :
    ∃ b', lowered.instructions.foldlM Matrix.instruction b = .ok b' ∧
      family.Tracks (fun q => turns q + op.turn q) (lowered.advance ledger) u' b' := by
  cases op with
  | single gate q => exact h.step_single hu hlower
  | pair gate control target =>
    -- a valid operation names two different qubits
    have hne : control ≠ target := by
      rintro rfl
      simp [Operation.validate] at hvalid
    obtain ⟨b', hb', htracks⟩ := h.step_pair hne hu hlower
    exact ⟨b', hb', htracks.congr_turns fun _ q => add_zero (turns q)⟩
  | globalPhase phase =>
    -- a phase of the whole circuit is skipped, or has no place
    have hskip : lowered = .skip := by
      simp only [lowerOperation?] at hlower
      split at hlower <;> cases hlower
      rfl
    cases hskip
    cases hu
    exact ⟨b, rfl, h.congr_turns fun _ q => add_zero (turns q)⟩
  | define | inputBit | measure | setShots | repeatMeasurement =>
    cases hlower
    cases hu
    exact ⟨b, rfl, h.congr_turns fun _ q => add_zero (turns q)⟩

/-- **The run.** A family keeps track of a whole list of operations, and its instructions apply. -/
theorem run {ops : List (Operation R)} (hvalid : ∀ op ∈ ops, op.validate = .ok ()) :
    ∀ {turns : Nat → R} {ledger final : PhaseLedger R} {u u' b : Unitary.Matrix R n}
      {instructions : List (Instruction R)}, family.Tracks turns ledger u b →
      ops.foldlM Matrix.operation u = .ok u' →
      family.lowerOperations ledger ops = .ok (instructions, final) →
      ∃ b', instructions.foldlM Matrix.instruction b = .ok b' ∧
        family.Tracks (fun q => turns q + (ops.map (Operation.turn · q)).sum) final u' b' := by
  -- rotations, ledger and matrices change along the list, so they stay general
  induction ops with
  | nil =>
    intro turns ledger final u u' b instructions h hu hlower
    cases hu
    cases hlower
    exact ⟨b, rfl, h.congr_turns fun _ q => add_zero (turns q)⟩
  | cons op rest ih =>
    intro turns ledger final u u' b instructions h hu hlower
    obtain ⟨u₁, hop, hrest⟩ := foldlM_cons_eq_ok_iff.mp hu
    obtain ⟨lowered, tail, hlowered, htail, rfl⟩ := lowerOperations_cons_eq_ok_iff.mp hlower
    obtain ⟨b₁, hb₁, h₁⟩ := h.step (hvalid op List.mem_cons_self) hop hlowered
    obtain ⟨b', hb', h'⟩ := ih (fun o ho => hvalid o (List.mem_cons_of_mem op ho)) h₁ hrest htail
    refine ⟨b', ?_, h'.congr_turns fun _ q => ?_⟩
    · rw [List.foldlM_append]
      exact bind_eq_ok_iff.mpr ⟨b₁, hb₁, hb'⟩
    · rw [List.map_cons, List.sum_cons, add_assoc]

end Tracks

end Family

end CircuitDispatch
