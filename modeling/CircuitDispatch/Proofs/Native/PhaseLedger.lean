import CircuitDispatch.Proofs.Scalar.Exact
import CircuitDispatch.Native.Lowering
import CircuitDispatch.Proofs.Angle.Values
import CircuitDispatch.Proofs.SortedMap

/-!
# What a phase ledger is worth

What a ledger stores for a qubit depends on the rotations of this qubit alone, so rotations of
different qubits can be recorded in either order (`PhaseLedger.accumulate_comm`).

`PhaseLedger.turn` is the number that a ledger holds for a qubit, and `Concrete n`
says that the ledger holds numbers only, for qubits below `n`. Recording a rotation
adds to the number (`turn_accumulate`), and shifting an azimuth subtracts it
(`eval?_shifted`). The residuals hold the whole of it where no pending rotation is
negligible without being zero (`sum_residuals`).
-/

namespace CircuitDispatch

variable {R : Type}

namespace PhaseLedger

/-! ### What is stored -/

section Stored

variable [Scalar R] {ledger ledger' : PhaseLedger R} {p q : Nat}

theorem get?_accumulate_self (theta : Angle R) : (ledger.accumulate q theta).phases.get? q
    = some (Angle.add (ledger.phase q) theta).simplify :=
  SortedMap.get?_insert_self _ _ _

theorem get?_accumulate_of_ne (h : p ≠ q) (theta : Angle R) :
    (ledger.accumulate q theta).phases.get? p = ledger.phases.get? p :=
  SortedMap.get?_insert_of_ne _ _ h

/-- What is stored for a qubit comes from what was stored for it. -/
theorem get?_accumulate_congr (h : ledger.phases.get? p = ledger'.phases.get? p) (q : Nat)
    (theta : Angle R) :
    (ledger.accumulate q theta).phases.get? p = (ledger'.accumulate q theta).phases.get? p := by
  by_cases hpq : p = q
  · subst hpq
    rw [get?_accumulate_self, get?_accumulate_self, phase, phase, h]
  · rw [get?_accumulate_of_ne hpq, get?_accumulate_of_ne hpq, h]

/-- **Rotations of two qubits may be recorded in either order.** -/
theorem accumulate_comm (h : p ≠ q) (theta theta' : Angle R) :
    (ledger.accumulate p theta).accumulate q theta'
      = (ledger.accumulate q theta').accumulate p theta := by
  have hphases : ∀ r, ((ledger.accumulate p theta).accumulate q theta').phases.get? r
      = ((ledger.accumulate q theta').accumulate p theta).phases.get? r := by
    intro r
    by_cases hrp : r = p
    · subst hrp
      rw [get?_accumulate_of_ne h]
      exact get?_accumulate_congr (get?_accumulate_of_ne h theta').symm r theta
    · rw [get?_accumulate_of_ne hrp]
      exact get?_accumulate_congr (get?_accumulate_of_ne hrp theta) q theta'
  exact congrArg PhaseLedger.mk (SortedMap.ext_get? hphases)

/-- A qubit is shifted by what is stored for it. -/
theorem shifted_congr (h : ledger.phases.get? q = ledger'.phases.get? q) :
    ledger.shifted q = ledger'.shifted q := by
  funext azimuth
  unfold shifted
  rw [h]

end Stored

end PhaseLedger

variable [ExactScalar R] {n : Nat}

namespace Angle

omit [ExactScalar R] in
/-- The number of an angle is its value. -/
theorem number_eq_ok_iff [Scalar R] {a : Angle R} {v : R} :
    a.number = .ok v ↔ a.eval? = some v := by
  unfold number value
  cases h : a.eval? with
  | none => simp
  | some w => simp

omit [ExactScalar R] in
/-- A step that uses the number of an angle goes on with its value. -/
theorem bind_number [Scalar R] {a : Angle R} {v : R} (h : a.eval? = some v) {β : Type}
    (f : R → Except CompileError β) : (a.number >>= f) = f v := by
  rw [number_eq_ok_iff.mpr h]
  rfl

theorem eval?_zero : (Angle.zero : Angle R).eval? = some 0 := by
  simp only [zero, eval?, ExactScalar.ofNat_zero]

theorem eval?_quarterTurn : (quarterTurn : Angle R).eval? = some Unitary.quarter := by
  simp only [quarterTurn, piOver, eval?, Option.bind_eq_bind, Option.bind_some,
    ExactScalar.isZero_two, Bool.false_eq_true, if_false]
  rfl

end Angle

namespace PhaseLedger

/-- The number that is pending on a qubit; nothing is pending where no rotation has a value. -/
def turn (ledger : PhaseLedger R) (q : Nat) : R := (ledger.phase q).eval?.getD 0

/-- Everything pending is a number, and it is pending on a qubit below `n`. -/
def Concrete (n : Nat) (ledger : PhaseLedger R) : Prop :=
  ∀ q a, ledger.phases.get? q = some a → q < n ∧ ∃ v, a.eval? = some v

theorem concrete_empty : (PhaseLedger.empty : PhaseLedger R).Concrete n := by
  intro q a h
  cases h

theorem turn_empty (q : Nat) : (PhaseLedger.empty : PhaseLedger R).turn q = 0 := by
  unfold turn phase
  change ((Angle.zero : Angle R).eval?).getD 0 = 0
  rw [Angle.eval?_zero, Option.getD_some]

/-- In a concrete ledger every pending rotation has the value `turn`. -/
theorem Concrete.eval?_phase {ledger : PhaseLedger R} (h : ledger.Concrete n) (q : Nat) :
    (ledger.phase q).eval? = some (ledger.turn q) := by
  unfold turn phase
  cases hq : ledger.phases.get? q with
  | none => rw [Option.getD_none, Angle.eval?_zero, Option.getD_some]
  | some a =>
    obtain ⟨-, v, hv⟩ := h q a hq
    rw [Option.getD_some, hv, Option.getD_some]

section Accumulate

variable {ledger : PhaseLedger R} {theta : Angle R} {v : R} {q : Nat}

/-- The rotation stored by recording one with a value. -/
private theorem Concrete.get?_accumulate (h : ledger.Concrete n) (hv : theta.eval? = some v) :
    (ledger.accumulate q theta).phases.get? q = some (.constant (ledger.turn q + v)) := by
  rw [get?_accumulate_self]
  refine congrArg some (Angle.simplify_of_eval? ?_)
  simp only [Angle.eval?, h.eval?_phase q, hv]
  rfl

/-- **Recording a rotation** adds it to what is pending on its qubit. -/
theorem turn_accumulate (h : ledger.Concrete n) (hv : theta.eval? = some v) (p : Nat) :
    (ledger.accumulate q theta).turn p = ledger.turn p + if p = q then v else 0 := by
  by_cases hp : p = q
  · -- the stored rotation has a value, so it was simplified to it
    subst hp
    rw [if_pos rfl]
    unfold turn
    rw [phase, h.get?_accumulate hv]
    rfl
  · rw [if_neg hp, add_zero]
    unfold turn phase
    rw [get?_accumulate_of_ne hp]

theorem Concrete.accumulate (h : ledger.Concrete n) (hv : theta.eval? = some v) (hq : q < n) :
    (ledger.accumulate q theta).Concrete n := by
  intro p a hp
  by_cases hpq : p = q
  · subst hpq
    rw [h.get?_accumulate hv] at hp
    cases hp
    exact ⟨hq, _, rfl⟩
  · rw [get?_accumulate_of_ne hpq] at hp
    exact h p a hp

end Accumulate

/-- **Shifting an azimuth** subtracts what is pending on its qubit. -/
theorem Concrete.eval?_shifted {ledger : PhaseLedger R} (h : ledger.Concrete n) {azimuth : Angle R}
    {x : R} (hx : azimuth.eval? = some x) (q : Nat) :
    (ledger.shifted q azimuth).eval? = some (x - ledger.turn q) := by
  have hphase := h.eval?_phase q
  unfold shifted
  cases hq : ledger.phases.get? q with
  | none =>
    -- nothing was ever recorded, so the turn is zero
    have hzero : ledger.turn q = 0 := by
      unfold turn phase
      rw [hq, Option.getD_none, Angle.eval?_zero, Option.getD_some]
    rw [hzero, sub_zero]
    exact hx
  | some a =>
    have ha : a.eval? = some (ledger.turn q) := by
      unfold phase at hphase
      rwa [hq, Option.getD_some] at hphase
    have hsub : (Angle.sub azimuth a).eval? = some (x - ledger.turn q) := by
      simp only [Angle.eval?, hx, ha]
      rfl
    change ((Angle.sub azimuth a).simplify).eval? = some (x - ledger.turn q)
    rw [Angle.simplify_of_eval? hsub]
    rfl

/-! ### Residuals -/

/-- The residuals of a concrete ledger are numbers on qubits below `n`. -/
theorem Concrete.residuals {ledger : PhaseLedger R} (h : ledger.Concrete n) :
    ∀ e ∈ ledger.residuals.entries, e.1 < n ∧ ∃ v, e.2.eval? = some v := by
  rintro ⟨q, a⟩ he
  have hget : ledger.phases.get? q = some a :=
    SortedMap.get?_eq_some_iff.mpr (List.mem_filter.mp he).1
  exact h q a hget

/-- **Residuals lose nothing** unless something pending is negligible without being zero: they
add up to what is pending on each qubit. -/
theorem Concrete.sum_residuals {ledger : PhaseLedger R} (h : ledger.Concrete n)
    (hsmall : ∀ q, Scalar.negligible (ledger.turn q) = true → ledger.turn q = 0) (q : Nat) :
    (ledger.residuals.entries.map fun e => if q == e.1 then e.2.eval?.getD 0 else 0).sum
      = ledger.turn q := by
  have hphase := h.eval?_phase q
  rw [SortedMap.sum_entries_pick ledger.residuals q fun a => a.eval?.getD 0]
  unfold PhaseLedger.residuals
  rw [SortedMap.get?_filter]
  unfold phase at hphase
  cases hq : ledger.phases.get? q with
  | none =>
    rw [hq, Option.getD_none, Angle.eval?_zero] at hphase
    exact Option.some.inj hphase
  | some a =>
    rw [hq, Option.getD_some] at hphase
    have hzero : a.isZero = Scalar.negligible (ledger.turn q) := by
      unfold Angle.isZero
      rw [hphase]
    -- a negligible rotation is dropped, and by assumption it was zero
    cases hneg : Scalar.negligible (ledger.turn q) with
    | true =>
      rw [hneg] at hzero
      rw [Option.filter_some_neg (by rw [hzero]; decide), hsmall q hneg]
      rfl
    | false =>
      rw [hneg] at hzero
      rw [Option.filter_some_pos (by rw [hzero]; rfl), Option.elim_some, hphase]
      rfl

end PhaseLedger

end CircuitDispatch
