import CircuitDispatch.Proofs.Angle.Values
import CircuitDispatch.Proofs.Native.Tracking

/-!
# The angles of instructions

Lowering makes the angles of its instructions from those of the gates: it takes them as they are,
or sums them up and subtracts the sums, simplified, and it brings in zero, the half turn and the
quarter turns. So what holds of these and is kept by simplified sums and differences
(`Angle.KeptByFolding`) holds of every angle of every instruction, if it holds of the angles of the
gates (`Family.lowerOperations_angles`).
-/

namespace CircuitDispatch

variable {R : Type} [Scalar R] {P : Angle R → Prop}

/-- What lowering keeps true of angles. -/
structure Angle.KeptByFolding (P : Angle R → Prop) : Prop where
  zero : P zero
  pi : P pi
  quarterTurn : P quarterTurn
  neg_quarterTurn : P (neg Angle.quarterTurn)
  add {a b : Angle R} (ha : P a) (hb : P b) : P (add a b).simplify
  sub {a b : Angle R} (ha : P a) (hb : P b) : P (sub a b).simplify

namespace Angle

/-- **Folding loses no value.** -/
theorem keptByFolding_eval? (htwo : Scalar.isZero (Scalar.ofNat 2 : R) = false) :
    KeptByFolding fun a : Angle R => ∃ v, a.eval? = some v := by
  have hquarter : ∃ v, (Angle.quarterTurn : Angle R).eval? = some v := by
    simp [Angle.quarterTurn, piOver, eval?, htwo]
  obtain ⟨quarter, hquarter⟩ := hquarter
  -- a sum or difference of angles with values is simplified to its value
  exact {
    zero := ⟨_, rfl⟩
    pi := ⟨_, rfl⟩
    quarterTurn := ⟨quarter, hquarter⟩
    neg_quarterTurn := ⟨-quarter, by rw [eval?, hquarter, Option.map_some]⟩
    add := by
      rintro a b ⟨v, hv⟩ ⟨w, hw⟩
      have hsum : (add a b).eval? = some (v + w) := by rw [eval?, hv, hw]; rfl
      exact ⟨v + w, by rw [simplify_of_eval? hsum]; rfl⟩
    sub := by
      rintro a b ⟨v, hv⟩ ⟨w, hw⟩
      have hdifference : (sub a b).eval? = some (v - w) := by rw [eval?, hv, hw]; rfl
      exact ⟨v - w, by rw [simplify_of_eval? hdifference]; rfl⟩ }

/-- **Folding brings in no symbol.** -/
theorem keptByFolding_occurrences (S : String → Prop) :
    KeptByFolding fun a : Angle R => ∀ name ∈ a.occurrences, S name where
  zero := List.forall_mem_nil _
  pi := List.forall_mem_nil _
  quarterTurn := List.forall_mem_nil _
  neg_quarterTurn := List.forall_mem_nil _
  add ha hb := by
    rw [occurrences_simplify]
    exact List.forall_mem_append.mpr ⟨ha, hb⟩
  sub ha hb := by
    rw [occurrences_simplify]
    exact List.forall_mem_append.mpr ⟨ha, hb⟩

end Angle

namespace PhaseLedger

variable {ledger : PhaseLedger R}

/-- Whether a property holds of everything that is pending. -/
def All (P : Angle R → Prop) (ledger : PhaseLedger R) : Prop :=
  ∀ q a, ledger.phases.get? q = some a → P a

omit [Scalar R] in
theorem all_empty : (empty : PhaseLedger R).All P := by
  intro q a h
  cases h

theorem All.shifted (hP : Angle.KeptByFolding P) (h : ledger.All P) {azimuth : Angle R}
    (hazimuth : P azimuth) (q : Nat) : P (ledger.shifted q azimuth) := by
  unfold PhaseLedger.shifted
  cases hq : ledger.phases.get? q with
  | none => exact hazimuth
  | some phase => exact hP.sub hazimuth (h q phase hq)

theorem All.accumulate (hP : Angle.KeptByFolding P) (h : ledger.All P) {theta : Angle R}
    (htheta : P theta) (q : Nat) : (ledger.accumulate q theta).All P := by
  have hphase : P (ledger.phase q) := by
    unfold phase
    cases hq : ledger.phases.get? q with
    | none => exact hP.zero
    | some phase => exact h q phase hq
  intro p a hp
  by_cases hpq : p = q
  · subst hpq
    rw [get?_accumulate_self] at hp
    cases hp
    exact hP.add hphase htheta
  · rw [get?_accumulate_of_ne hpq] at hp
    exact h p a hp

end PhaseLedger

namespace Family

variable {family : Family} {ledger final : PhaseLedger R} {op : Operation R}
  {instruction : Instruction R} {instructions : List (Instruction R)} {ops : List (Operation R)}

/-- **The angles of one instruction** are those of the gate, or shifted, or brought in. -/
theorem lowerOperation?_angles (hP : Angle.KeptByFolding P) (hledger : ledger.All P)
    (hop : op.isGate = true → ∀ a ∈ op.angles, P a)
    (h : family.lowerOperation? ledger op = some (.emit instruction)) :
    ∀ a ∈ instruction.gate.angles, P a := by
  cases op with
  | single gate q =>
    have hgate : ∀ a ∈ gate.angles, P a := hop rfl
    change family.lowerSingle? ledger gate q = some (.emit instruction) at h
    unfold lowerSingle? onQubit at h
    split at h <;> cases h
    -- the azimuth of a gate on the equator is shifted
    case h_2 | h_3 =>
      exact List.forall_mem_singleton.mpr
        (hledger.shifted hP (hgate _ List.mem_cons_self) q)
    case h_12 =>
      obtain ⟨htheta, hphi⟩ := List.forall_mem_cons.mp hgate
      exact List.forall_mem_cons.mpr ⟨htheta, List.forall_mem_singleton.mpr
        (hledger.shifted hP (List.forall_mem_singleton.mp hphi) q)⟩
    case h_4 => exact List.forall_mem_singleton.mpr hP.pi
    case h_5 => exact List.forall_mem_singleton.mpr hP.quarterTurn
    case h_6 => exact List.forall_mem_singleton.mpr hP.neg_quarterTurn
    case h_7 | h_8 => exact hgate
    case h_9 | h_10 => exact List.forall_mem_nil _
  | pair gate control target =>
    have hgate : ∀ a ∈ gate.angles, P a := hop rfl
    -- an interaction has no azimuths of its own, so zero is shifted on both qubits
    have hentangle : ∀ theta, P theta → ∀ a ∈ [ledger.shifted control Angle.zero,
        ledger.shifted target Angle.zero, theta], P a := by
      intro theta htheta
      refine List.forall_mem_cons.mpr ⟨hledger.shifted hP hP.zero control, ?_⟩
      exact List.forall_mem_cons.mpr ⟨hledger.shifted hP hP.zero target,
        List.forall_mem_singleton.mpr htheta⟩
    change family.lowerPair? ledger gate control target = some (.emit instruction) at h
    unfold lowerPair? entangle onPair at h
    split at h <;> cases h
    case h_1 => exact hentangle _ hP.quarterTurn
    case h_2 => exact hentangle _ (hgate _ List.mem_cons_self)
    case h_4 | h_5 => exact hgate
    case h_3 | h_6 | h_7 => exact List.forall_mem_nil _
  | globalPhase phase =>
    change (if family = .iqm then some Lowered.skip else none) = some (.emit instruction) at h
    split at h <;> cases h
  | define | inputBit | measure | setShots | repeatMeasurement => cases h

/-- What is pending after one operation. -/
theorem all_advance (hP : Angle.KeptByFolding P) (hledger : ledger.All P)
    (hop : op.isGate = true → ∀ a ∈ op.angles, P a) {lowered : Lowered R}
    (h : family.lowerOperation? ledger op = some lowered) : (lowered.advance ledger).All P := by
  cases lowered with
  | emit | skip => exact hledger
  | fold q theta =>
    obtain ⟨-, rfl⟩ := lowerOperation?_fold h
    exact hledger.accumulate hP (hop rfl theta List.mem_cons_self) q

/-- **The angles of all instructions.** -/
theorem lowerOperations_angles (hP : Angle.KeptByFolding P) (hledger : ledger.All P)
    (hops : ∀ op ∈ ops, op.isGate = true → ∀ a ∈ op.angles, P a)
    (h : family.lowerOperations ledger ops = .ok (instructions, final)) :
    ∀ i ∈ instructions, ∀ a ∈ i.gate.angles, P a := by
  induction ops generalizing ledger instructions with
  | nil =>
    cases h
    exact List.forall_mem_nil _
  | cons op rest ih =>
    obtain ⟨lowered, tail, hlowered, htail, rfl⟩ := lowerOperations_cons_eq_ok_iff.mp h
    obtain ⟨hop, hrest⟩ := List.forall_mem_cons.mp hops
    refine List.forall_mem_append.mpr ⟨?_, ih (all_advance hP hledger hop hlowered) hrest htail⟩
    cases lowered with
    | emit i => exact List.forall_mem_singleton.mpr (lowerOperation?_angles hP hledger hop hlowered)
    | fold | skip => exact List.forall_mem_nil _

end Family

end CircuitDispatch
