import Mathlib
import CircuitDispatch.Unitary.Dense

/-!
# Gates as operators on all qubits

A gate on some of the qubits is an operator on all of them: its entry in a row
and a column is read off the gate's own bits where the row and the column agree
on every other qubit, and is zero elsewhere (`lift`). The main statements say that
applying a gate to a dense matrix is the product with the lifted gate
(`toOperator_applySingle`, `toOperator_applyPair`), for gates over any commutative ring.

A basis state is determined by its bits (`Basis.ext_bit`), and the rows that a gate
combines are exactly those that agree with a given one off the gate's qubits
(`agreeOff_singleton`, `agreeOff_pair`).
-/

namespace CircuitDispatch

/-- A matrix over the basis states of `n` qubits. -/
abbrev Operator (α : Type) (n : Nat) := Matrix (Unitary.Basis n) (Unitary.Basis n) α

namespace Unitary

variable {n : Nat}

/-! ### Bits of basis states -/

namespace Basis

/-- **Basis states are their bits.** -/
theorem ext_bit {r c : Basis n} (h : ∀ p : Fin n, r.bit p = c.bit p) : r = c := by
  refine Fin.ext (Nat.eq_of_testBit_eq fun i => ?_)
  by_cases hi : i < n
  · have hp := h ⟨n - 1 - i, by omega⟩
    have hback : n - 1 - (n - 1 - i) = i := by omega
    unfold bit at hp
    rwa [hback] at hp
  · -- beyond the width both indices have no bits left
    have hpow : 2 ^ n ≤ 2 ^ i := Nat.pow_le_pow_right (by omega) (by omega)
    rw [Nat.testBit_lt_two_pow (lt_of_lt_of_le r.isLt hpow),
      Nat.testBit_lt_two_pow (lt_of_lt_of_le c.isLt hpow)]

/-- The weight of a qubit picks out that qubit. -/
private theorem testBit_weight (p q : Fin n) :
    (Nat.pow 2 (n - 1 - q.val)).testBit (n - 1 - p.val) = decide (p = q) := by
  have hp := p.isLt
  have hq := q.isLt
  rw [Nat.pow_eq, Nat.testBit_two_pow]
  refine decide_eq_decide.mpr ⟨fun h => Fin.ext (by omega), fun h => by rw [h]⟩

@[simp] theorem bit_raise (q p : Fin n) (r : Basis n) :
    (raise q r).bit p = if p = q then true else r.bit p := by
  unfold bit raise
  rw [Nat.testBit_or, testBit_weight]
  by_cases h : p = q <;> simp [h]

@[simp] theorem bit_lower (q p : Fin n) (r : Basis n) :
    (lower q r).bit p = if p = q then false else r.bit p := by
  unfold lower
  by_cases hr : r.bit q.val = true
  · rw [if_pos hr]
    unfold bit at *
    rw [Nat.testBit_xor, testBit_weight]
    by_cases h : p = q
    · subst h; simp [hr]
    · simp [h]
  · rw [if_neg hr]
    by_cases h : p = q
    · subst h; simpa using hr
    · rw [if_neg h]

end Basis

/-- Two basis states have the same bits, except perhaps on some qubits. -/
def AgreeOff (S : Finset (Fin n)) (r c : Basis n) : Prop := ∀ p, p ∉ S → r.bit p = c.bit p

instance (S : Finset (Fin n)) (r c : Basis n) : Decidable (AgreeOff S r c) :=
  inferInstanceAs (Decidable (∀ p, p ∉ S → r.bit p = c.bit p))

namespace AgreeOff

variable {S : Finset (Fin n)} {r s c : Basis n}

theorem refl (S : Finset (Fin n)) (r : Basis n) : AgreeOff S r r := fun _ _ => rfl

theorem symm (h : AgreeOff S r c) : AgreeOff S c r := fun p hp => (h p hp).symm

theorem trans (h : AgreeOff S r s) (h' : AgreeOff S s c) : AgreeOff S r c :=
  fun p hp => (h p hp).trans (h' p hp)

end AgreeOff

/-- The two rows that a gate on one qubit combines. -/
theorem agreeOff_singleton {q : Fin n} {r s : Basis n} :
    AgreeOff {q} r s ↔ s = Basis.lower q r ∨ s = Basis.raise q r := by
  constructor
  · intro h
    have hoff : ∀ p, p ≠ q → s.bit p = r.bit p := fun p hp => (h p (by simpa using hp)).symm
    -- the bit of the qubit itself says which of the two rows it is
    cases hq : s.bit q with
    | false =>
      refine Or.inl (Basis.ext_bit fun p => ?_)
      by_cases hp : p = q
      · subst hp; simpa using hq
      · simp [hp, hoff p hp]
    | true =>
      refine Or.inr (Basis.ext_bit fun p => ?_)
      by_cases hp : p = q
      · subst hp; simpa using hq
      · simp [hp, hoff p hp]
  · rintro (rfl | rfl) p hp
    · simp [show p ≠ q by simpa using hp]
    · simp [show p ≠ q by simpa using hp]

/-- The four rows that a gate on two qubits combines. -/
theorem agreeOff_pair {first second : Fin n} {r s : Basis n} (base : Basis n)
    (hbase : base = Basis.lower first (Basis.lower second r)) :
    AgreeOff {first, second} r s ↔ s = base ∨ s = Basis.raise second base ∨
      s = Basis.raise first base ∨ s = Basis.raise second (Basis.raise first base) := by
  subst hbase
  constructor
  · intro h
    have hoff : ∀ p, p ≠ first → p ≠ second → s.bit p = r.bit p :=
      fun p hf hs => (h p (by simp [hf, hs])).symm
    -- the bits of `s` on the two qubits select one of the four rows
    have key : ∀ t : Basis n, t.bit first = s.bit first → t.bit second = s.bit second →
        (∀ p, p ≠ first → p ≠ second → t.bit p = r.bit p) → s = t := by
      intro t hf hs hrest
      refine Basis.ext_bit fun p => ?_
      by_cases hpf : p = first
      · subst hpf; exact hf.symm
      by_cases hps : p = second
      · subst hps; exact hs.symm
      rw [hoff p hpf hps, hrest p hpf hps]
    cases hf : s.bit first <;> cases hs : s.bit second
    · exact Or.inl (key _ (by simp [hf]) (by simp [hs]) (by simp +contextual))
    · refine Or.inr (Or.inl (key _ ?_ (by simp [hs]) (by simp +contextual)))
      have hne : first ≠ second := by rintro rfl; rw [hf] at hs; cases hs
      simp [hf, hne]
    · refine Or.inr (Or.inr (Or.inl (key _ (by simp [hf]) ?_ (by simp +contextual))))
      have hne : second ≠ first := by rintro rfl; rw [hf] at hs; cases hs
      simp [hs, hne]
    · exact Or.inr (Or.inr (Or.inr (key _ (by simp [hf]) (by simp [hs]) (by simp +contextual))))
  · rintro (rfl | rfl | rfl | rfl) p hp <;>
      simp only [Finset.mem_insert, Finset.mem_singleton, not_or] at hp <;>
      simp [hp.1, hp.2]

/-! ### Lifting a gate -/

variable {α : Type} [CommRing α]

/-- **The lifted gate.** A gate on the qubits of `S` acts on rows and columns that agree off `S`. -/
def lift (S : Finset (Fin n)) (gate : Basis n → Basis n → α) : Operator α n :=
  Matrix.of fun r c => if AgreeOff S r c then gate r c else 0

theorem lift_apply (S : Finset (Fin n)) (gate : Basis n → Basis n → α) (r c : Basis n) :
    lift S gate r c = if AgreeOff S r c then gate r c else 0 := rfl

/-- A product with a lifted gate is a sum over the rows that the gate combines. -/
theorem lift_mul_apply (S : Finset (Fin n)) (gate : Basis n → Basis n → α) (m : Operator α n)
    (r c : Basis n) :
    (lift S gate * m) r c
      = ∑ s ∈ Finset.univ.filter (fun s => AgreeOff S r s), gate r s * m s c := by
  rw [Matrix.mul_apply, Finset.sum_filter]
  refine Finset.sum_congr rfl fun s _ => ?_
  rw [lift_apply, ite_mul, zero_mul]

omit [CommRing α] in
/-- The entry of a one-qubit matrix, by the qubit's bit in the row and in the column. -/
def Single.entry (gate : Single α) : Bool → Bool → α
  | false, false => gate.a
  | false, true => gate.b
  | true, false => gate.c
  | true, true => gate.d

/-- A gate on one qubit as an operator on all qubits. -/
def Single.lift (gate : Single α) (q : Fin n) : Operator α n :=
  Unitary.lift {q} fun r c => gate.entry (r.bit q) (c.bit q)

omit [CommRing α] in
/-- The entry of a two-qubit matrix, by the two bits in the row and the two in the column. -/
def Pair.entry (gate : Pair α) (row col : Bool × Bool) : α :=
  gate.rows[Pair.index row.1 row.2][Pair.index col.1 col.2]

/-- A gate on two qubits as an operator on all qubits. -/
def Pair.lift (gate : Pair α) (first second : Fin n) : Operator α n :=
  Unitary.lift {first, second} fun r c =>
    gate.entry (r.bit first, r.bit second) (c.bit first, c.bit second)

namespace Dense

omit [CommRing α] in
/-- A dense matrix as an operator. -/
def toOperator (m : Dense α n) : Operator α n := Matrix.of m.entry

omit [CommRing α] in
@[simp] theorem toOperator_apply (m : Dense α n) (r c : Basis n) :
    m.toOperator r c = m.entry r c := rfl

/-- **Applying a one-qubit gate** is the product with the lifted gate. -/
theorem toOperator_applySingle (m : Dense α n) (gate : Single α) (q : Fin n) :
    (m.applySingle gate q).toOperator = gate.lift q * m.toOperator := by
  ext r c
  have hne : Basis.lower q r ≠ Basis.raise q r := by
    intro h
    have hq := congrArg (fun s : Basis n => s.bit q) h
    simp at hq
  have hrows : Finset.univ.filter (fun s => AgreeOff {q} r s)
      = {Basis.lower q r, Basis.raise q r} := by
    ext s
    simp [agreeOff_singleton]
  rw [Single.lift, lift_mul_apply, hrows, Finset.sum_pair hne]
  simp only [toOperator_apply, applySingle, entry_ofEntries, Basis.bit_lower, Basis.bit_raise,
    if_pos]
  cases r.bit q <;> rfl

/-- **Applying a two-qubit gate** to two different qubits is the product with the lifted gate. -/
theorem toOperator_applyPair (m : Dense α n) (gate : Pair α) {first second : Fin n}
    (hne : first ≠ second) :
    (m.applyPair 0 gate first second).toOperator = gate.lift first second * m.toOperator := by
  ext r c
  set base := Basis.lower first (Basis.lower second r) with hbase
  have hrows : Finset.univ.filter (fun s => AgreeOff {first, second} r s)
      = {base, Basis.raise second base, Basis.raise first base,
          Basis.raise second (Basis.raise first base)} := by
    ext s
    simp [agreeOff_pair base hbase]
  -- the four rows differ in the bits of the two qubits
  have hbits : ∀ s t : Basis n, s = t →
      s.bit first = t.bit first ∧ s.bit second = t.bit second := by
    rintro s t rfl
    exact ⟨rfl, rfl⟩
  have h01 : base ≠ Basis.raise second base := fun h => by
    simpa [hbase] using (hbits _ _ h).2
  have h02 : base ≠ Basis.raise first base := fun h => by
    simpa [hbase] using (hbits _ _ h).1
  have h03 : base ≠ Basis.raise second (Basis.raise first base) := fun h => by
    simpa [hbase] using (hbits _ _ h).2
  have h12 : Basis.raise second base ≠ Basis.raise first base := fun h => by
    simpa [hbase, hne] using (hbits _ _ h).1
  have h13 : Basis.raise second base ≠ Basis.raise second (Basis.raise first base) := fun h => by
    simpa [hbase, hne] using (hbits _ _ h).1
  have h23 : Basis.raise first base ≠ Basis.raise second (Basis.raise first base) := fun h => by
    simpa [hbase, hne.symm] using (hbits _ _ h).2
  rw [Pair.lift, lift_mul_apply, hrows, Finset.sum_insert (by simp [h01, h02, h03]),
    Finset.sum_insert (by simp [h12, h13]), Finset.sum_pair h23]
  simp only [toOperator_apply, applyPair, entry_ofEntries, ← hbase, zero_add]
  have hb1 : base.bit first = false := by simp [hbase]
  have hb2 : base.bit second = false := by simp [hbase]
  simp only [Basis.bit_raise, hb1, hb2, if_pos, if_neg hne, if_neg hne.symm]
  simp only [add_assoc]
  rfl

end Dense

end Unitary

end CircuitDispatch
