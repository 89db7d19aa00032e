import CircuitDispatch.Unitary.OfCircuit

/-!
# Gates in place

A matrix can be multiplied by a gate where it stands, without a second matrix. The columns are swept
one after the other. In each column the rows that a gate combines are visited together, at the one
of them in which the qubits of the gate are zero: their entries are read, and then overwritten.
A gate on a qubit beyond the matrix is refused before anything is overwritten.
-/

namespace CircuitDispatch.Unitary

variable {α : Type} {n : Nat}

/-- A change of a matrix in place, which may be refused. -/
abbrev Update (α : Type) (n : Nat) := ExceptT CompileError (StateM (Dense α n)) Unit

/-- The bit of a qubit in the index of a basis state. -/
def Basis.mask (q : Fin n) : Nat := Nat.pow 2 (n - 1 - q.val)

namespace Dense

/-- Visits some rows in every column, column by column. -/
def sweep (visit : Basis n → Basis n → Dense α n → Dense α n) (visited : Basis n → Bool)
    (m : Dense α n) : Dense α n :=
  (List.finRange _).foldl (fun m c =>
    ((List.finRange _).filter visited).foldl (fun m r => visit r c m) m) m

/-- Combines two entries of a column, the one in a row and the one with a qubit raised. -/
def visitTwo [Add α] [Mul α] (gate : Single α) (q : Fin n) (r c : Basis n) (m : Dense α n) :
    Dense α n :=
  let low := m.entry r c
  let high := m.entry (Basis.raise q r) c
  let m := m.write r c (gate.a * low + gate.b * high)
  m.write (Basis.raise q r) c (gate.c * low + gate.d * high)

/-- Multiplies by a one-qubit matrix from the left, in place. -/
def sweepSingle [Add α] [Mul α] (gate : Single α) (q : Fin n) : Dense α n → Dense α n :=
  sweep (visitTwo gate q) fun r => r.val &&& Basis.mask q == 0

/-- The rows that a two-qubit gate combines with a row in which both qubits are zero. -/
def fourRows (first second : Fin n) (base : Basis n) : Vector (Basis n) 4 :=
  #v[base, Basis.raise second base, Basis.raise first base,
    Basis.raise second (Basis.raise first base)]

/-- Combines four entries of a column, with sums that start from `zero`. -/
def visitFour [Add α] [Mul α] (zero : α) (gate : Pair α) (first second : Fin n) (base c : Basis n)
    (m : Dense α n) : Dense α n :=
  let rows := fourRows first second base
  let old := rows.map (m.entry · c)
  (List.finRange 4).foldl (fun m k =>
    m.write rows[k] c ((List.finRange 4).foldl (fun sum j => sum + gate.rows[k][j] * old[j]) zero))
    m

/-- Multiplies by a two-qubit matrix from the left, in place. -/
def sweepPair [Add α] [Mul α] (zero : α) (gate : Pair α) (first second : Fin n) :
    Dense α n → Dense α n :=
  sweep (visitFour zero gate first second) fun r =>
    r.val &&& (Basis.mask first ||| Basis.mask second) == 0

end Dense

namespace Update

/-- Applies a one-qubit gate to a qubit. -/
def single [Add α] [Mul α] (gate : Single α) (q : Nat) : Update α n := do
  let q ← MonadExcept.ofExcept (qubit n q)
  modify (Dense.sweepSingle gate q)

/-- Applies a two-qubit gate to two qubits. -/
def pair [Add α] [Mul α] (zero : α) (gate : Pair α) (first second : Nat) : Update α n := do
  let first ← MonadExcept.ofExcept (qubit n first)
  let second ← MonadExcept.ofExcept (qubit n second)
  modify (Dense.sweepPair zero gate first second)

end Update

end CircuitDispatch.Unitary
