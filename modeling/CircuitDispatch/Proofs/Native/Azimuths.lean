import CircuitDispatch.Proofs.Native.Placement

/-!
# The ledger shows in azimuths only

What a family makes of an operation depends on the ledger in one way: the azimuths of an
instruction are shifted, each by what is pending on its own qubit
(`Family.lowerOperation?_eq_map_shift`). So an operation looks at the qubits that it names, and
changes the ledger on the qubit that it rotates.

It follows how two ledgers are told apart. Ledgers that hold the same off some qubits
(`PhaseLedger.SameOff`) make the same instructions of a list of operations, up to azimuths on these
qubits (`Family.lowerOperations_sameOff`), and hold the same off these qubits afterwards.
-/

namespace CircuitDispatch

variable {R : Type}

/-! ### Azimuths of instructions -/

namespace Instruction

/-- The same instruction with other azimuths, each made from the old one and its qubit. -/
def mapAzimuths (f : Nat → Angle R → Angle R) : Instruction R → Instruction R
  | ⟨.gpi phi, [q]⟩ => ⟨.gpi (f q phi), [q]⟩
  | ⟨.gpi2 phi, [q]⟩ => ⟨.gpi2 (f q phi), [q]⟩
  | ⟨.prx theta phi, [q]⟩ => ⟨.prx theta (f q phi), [q]⟩
  | ⟨.ms phi0 phi1 theta, [p, q]⟩ => ⟨.ms (f p phi0) (f q phi1) theta, [p, q]⟩
  | i => i

theorem mapAzimuths_mapAzimuths (f g : Nat → Angle R → Angle R) (i : Instruction R) :
    (i.mapAzimuths f).mapAzimuths g = i.mapAzimuths fun q a => g q (f q a) := by
  fun_cases mapAzimuths f i <;> simp_all [mapAzimuths]

theorem mapAzimuths_congr {f g : Nat → Angle R → Angle R} {i : Instruction R}
    (h : ∀ q ∈ i.qubits, f q = g q) : i.mapAzimuths f = i.mapAzimuths g := by
  fun_cases mapAzimuths f i <;> simp_all [mapAzimuths]

/-- The same instruction without its azimuths on some qubits: zero stands in their place. -/
def forget [Scalar R] (qubits : List Nat) (i : Instruction R) : Instruction R :=
  i.mapAzimuths fun q azimuth => if q ∈ qubits then Angle.zero else azimuth

end Instruction

/-- The same outcome with the azimuths of the instruction shifted by what is pending. -/
def Lowered.shift [Scalar R] (ledger : PhaseLedger R) : Lowered R → Lowered R
  | .fold q theta => .fold q theta
  | .emit i => .emit (i.mapAzimuths ledger.shifted)
  | .skip => .skip

/-! ### Ledgers that differ on some qubits -/

namespace PhaseLedger

variable [Scalar R] {ledger ledger' : PhaseLedger R} {rotated : List Nat}

/-- Two ledgers that hold the same on every qubit that is not listed. -/
def SameOff (rotated : List Nat) (ledger ledger' : PhaseLedger R) : Prop :=
  ∀ q, q ∉ rotated → ledger.phases.get? q = ledger'.phases.get? q

theorem SameOff.accumulate (h : SameOff rotated ledger ledger') (q : Nat) (theta : Angle R) :
    SameOff rotated (ledger.accumulate q theta) (ledger'.accumulate q theta) :=
  fun p hp => get?_accumulate_congr (h p hp) q theta

theorem accumulate_sameOff (ledger : PhaseLedger R) (q : Nat) (theta : Angle R) :
    SameOff [q] (ledger.accumulate q theta) ledger :=
  fun _ hp => get?_accumulate_of_ne (List.ne_of_not_mem_cons hp) theta

/-- Instructions that are shifted by two such ledgers differ in the azimuths on the listed
qubits. -/
theorem SameOff.forget_eq (h : SameOff rotated ledger ledger') (i : Instruction R) :
    (i.mapAzimuths ledger.shifted).forget rotated
      = (i.mapAzimuths ledger'.shifted).forget rotated := by
  unfold Instruction.forget
  rw [Instruction.mapAzimuths_mapAzimuths, Instruction.mapAzimuths_mapAzimuths]
  refine Instruction.mapAzimuths_congr fun q _ => ?_
  funext azimuth
  by_cases hq : q ∈ rotated
  · rw [if_pos hq, if_pos hq]
  · rw [if_neg hq, if_neg hq, shifted_congr (h q hq)]

end PhaseLedger

/-! ### One operation -/

/-- The qubit that an operation rotates about Z. -/
def Operation.rotated? : Operation R → Option Nat
  | .single (.rotateZ _) q => some q
  | _ => none

/-- The qubits that a circuit rotates about Z. -/
def Circuit.rotatedQubits (c : Circuit R) : List Nat := c.operations.filterMap Operation.rotated?

theorem Operation.mem_qubits_of_rotated? {op : Operation R} {q : Nat} (h : op.rotated? = some q) :
    q ∈ op.qubits := by
  unfold rotated? at h
  split at h
  · cases h
    exact List.mem_singleton_self q
  · cases h

namespace Family

variable [Scalar R] {family : Family} {ledger ledger' final : PhaseLedger R}
  {op : Operation R} {ops : List (Operation R)} {lowered : Lowered R}
  {instructions : List (Instruction R)}

/-- **The ledger shifts azimuths**, and does nothing else to what is made of an operation. -/
theorem lowerOperation?_eq_map_shift (family : Family) (ledger : PhaseLedger R)
    (op : Operation R) : family.lowerOperation? ledger op
      = (family.lowerOperation? .empty op).map (Lowered.shift ledger) := by
  -- with nothing pending every azimuth is as it was written, and it is shifted on its own qubit
  cases op with
  | single gate q =>
    cases gate with
    | rotateZ | rotateXY | gpi | gpi2 | pauliX | sqrtPauliX | invSqrtPauliX | rotateX | rotateY
      | pauliY | pauliZ | hadamard =>
      cases family with
      | ionq | rigetti | oqc | iqm => rfl
  | pair gate control target =>
    cases gate with
    | molmerSorensenXX | variableMSXX | controlledPhaseShift | xy | controlledPauliZ
      | echoCrossResonance | cnot =>
      cases family with
      | ionq | rigetti | oqc | iqm => rfl
  | globalPhase =>
    cases family with
    | ionq | rigetti | oqc | iqm => rfl
  | define | inputBit | measure | setShots | repeatMeasurement => rfl

/-- **An operation looks at its own qubits.** -/
theorem lowerOperation?_congr
    (h : ∀ q ∈ op.qubits, ledger.phases.get? q = ledger'.phases.get? q) :
    family.lowerOperation? ledger op = family.lowerOperation? ledger' op := by
  rw [lowerOperation?_eq_map_shift family ledger, lowerOperation?_eq_map_shift family ledger']
  cases hop : family.lowerOperation? .empty op with
  | none => rfl
  | some lowered =>
    cases lowered with
    | fold | skip => rfl
    | emit i =>
      -- the azimuths are on qubits of the instruction, and these are qubits of the operation
      have hshifted : ∀ q ∈ i.qubits, ledger.shifted q = ledger'.shifted q := by
        rw [lowerOperation?_emit_qubits hop]
        exact fun q hq => PhaseLedger.shifted_congr (h q hq)
      exact congrArg (fun i => some (Lowered.emit i)) (Instruction.mapAzimuths_congr hshifted)

/-- **An operation changes the ledger on the qubit that it rotates**, and nowhere else. -/
theorem get?_advance_of_rotated?_ne (h : family.lowerOperation? ledger' op = some lowered) {q : Nat}
    (hq : op.rotated? ≠ some q) :
    (lowered.advance ledger).phases.get? q = ledger.phases.get? q := by
  cases lowered with
  | emit | skip => rfl
  | fold p theta =>
    obtain ⟨-, rfl⟩ := lowerOperation?_fold h
    exact PhaseLedger.get?_accumulate_of_ne (fun hqp => hq (congrArg some hqp.symm)) theta

theorem get?_advance_of_notMem (h : family.lowerOperation? ledger' op = some lowered) {q : Nat}
    (hq : q ∉ op.qubits) : (lowered.advance ledger).phases.get? q = ledger.phases.get? q :=
  get?_advance_of_rotated?_ne h fun hrotated => hq (Operation.mem_qubits_of_rotated? hrotated)

/-! ### Operations in order -/

/-- **A qubit that is not rotated** has the same pending as before. -/
theorem get?_phases_of_notMem_rotated
    (h : family.lowerOperations ledger ops = .ok (instructions, final)) {q : Nat}
    (hq : q ∉ ops.filterMap Operation.rotated?) : final.phases.get? q = ledger.phases.get? q := by
  induction ops generalizing ledger instructions with
  | nil =>
    cases h
    rfl
  | cons op rest ih =>
    obtain ⟨lowered, tail, hop, htail, -⟩ := lowerOperations_cons_eq_ok_iff.mp h
    rw [List.mem_filterMap] at hq
    have hrest : q ∉ rest.filterMap Operation.rotated? := fun hmem => by
      obtain ⟨op', hop', hrotated⟩ := List.mem_filterMap.mp hmem
      exact hq ⟨op', List.mem_cons_of_mem op hop', hrotated⟩
    have hhead : op.rotated? ≠ some q := fun hrotated => hq ⟨op, List.mem_cons_self, hrotated⟩
    rw [ih htail hrest, get?_advance_of_rotated?_ne hop hhead]

/-- **Ledgers that hold the same off some qubits** make the same instructions, up to azimuths on
these qubits, and stay so. -/
theorem lowerOperations_sameOff (family : Family) {rotated : List Nat}
    (h : ledger.SameOff rotated ledger') (ops : List (Operation R)) :
    SameOutcome
      (fun result result' => result.1.map (Instruction.forget rotated)
          = result'.1.map (Instruction.forget rotated) ∧
        result.2.SameOff rotated result'.2)
      (family.lowerOperations ledger ops) (family.lowerOperations ledger' ops) := by
  -- both ledgers change along the operations
  induction ops generalizing ledger ledger' with
  | nil => exact .ok ⟨rfl, h⟩
  | cons op rest ih =>
    rw [lowerOperations, lowerOperations, lowerOperation?_eq_map_shift family ledger,
      lowerOperation?_eq_map_shift family ledger']
    cases family.lowerOperation? .empty op with
    | none => exact .error _
    | some lowered =>
      cases lowered with
      | fold q theta => exact ih (h.accumulate q theta)
      | skip => exact ih h
      | emit i =>
        refine (ih h).bind fun result result' hrest => ?_
        exact .ok ⟨congrArg₂ List.cons (h.forget_eq i) hrest.1, hrest.2⟩

end Family

end CircuitDispatch
