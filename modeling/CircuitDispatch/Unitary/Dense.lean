import CircuitDispatch.Unitary.Gate

/-!
# Dense matrices

A matrix on `n` qubits has `2 ^ n` rows and columns. Qubit 0 is the most
significant bit of the index of a basis state. Applying a gate replaces each
entry by the combination of the entries of its column in the rows that differ
only in the gate's qubits.
-/

namespace CircuitDispatch.Unitary

/-- The index of a basis state of `n` qubits. -/
abbrev Basis (n : Nat) := Fin (Nat.pow 2 n)

namespace Basis

variable {n : Nat}

/-- The value of a qubit in a basis state. -/
def bit (r : Basis n) (q : Nat) : Bool := r.val.testBit (n - 1 - q)

/-- The basis state with a qubit set to one. -/
def raise (q : Fin n) (r : Basis n) : Basis n :=
  ⟨r.val ||| Nat.pow 2 (n - 1 - q.val),
    Nat.or_lt_two_pow r.isLt (Nat.pow_lt_pow_right (by omega) (by omega))⟩

/-- The basis state with a qubit set to zero. -/
def lower (q : Fin n) (r : Basis n) : Basis n :=
  if r.bit q.val then
    ⟨r.val ^^^ Nat.pow 2 (n - 1 - q.val),
      Nat.xor_lt_two_pow r.isLt (Nat.pow_lt_pow_right (by omega) (by omega))⟩
  else r

end Basis

/-- The index of a row or column of a two-qubit matrix, the first qubit's bit above the second's. -/
def Pair.index : Bool → Bool → Fin 4
  | false, false => 0
  | false, true => 1
  | true, false => 2
  | true, true => 3

/-- A matrix on `n` qubits, row by row. -/
structure Dense (α : Type) (n : Nat) where
  rows : Vector (Vector α (Nat.pow 2 n)) (Nat.pow 2 n)

namespace Dense

variable {α : Type} {n : Nat}

/-- The entry in a row and a column. -/
def entry (m : Dense α n) (r c : Basis n) : α := m.rows[r][c]

/-- Overwrites an entry. -/
def write (m : Dense α n) (r c : Basis n) (x : α) : Dense α n :=
  ⟨m.rows.set r (m.rows[r].set c x)⟩

/-- The matrix with given entries. -/
def ofEntries (f : Basis n → Basis n → α) : Dense α n :=
  ⟨.ofFn fun r => .ofFn fun c => f r c⟩

@[simp] theorem entry_ofEntries (f : Basis n → Basis n → α) (r c : Basis n) :
    (ofEntries f).entry r c = f r c := by
  simp [entry, ofEntries]

/-- All entries, row by row. -/
def toList (m : Dense α n) : List α := m.rows.toList.flatMap Vector.toList

/-- Multiplies by a one-qubit matrix from the left. -/
def applySingle [Add α] [Mul α] (m : Dense α n) (gate : Single α) (q : Fin n) : Dense α n :=
  ofEntries fun r c =>
    let low := m.entry (Basis.lower q r) c
    let high := m.entry (Basis.raise q r) c
    if r.bit q.val then gate.c * low + gate.d * high else gate.a * low + gate.b * high

/-- Multiplies by a two-qubit matrix from the left. The sums start from `zero`. -/
def applyPair [Add α] [Mul α] (zero : α) (m : Dense α n) (gate : Pair α) (first second : Fin n) :
    Dense α n :=
  ofEntries fun r c =>
    let base := Basis.lower first (Basis.lower second r)
    let row := gate.rows[Pair.index (r.bit first.val) (r.bit second.val)]
    zero + row[0] * m.entry base c
      + row[1] * m.entry (Basis.raise second base) c
      + row[2] * m.entry (Basis.raise first base) c
      + row[3] * m.entry (Basis.raise second (Basis.raise first base)) c

end Dense

end CircuitDispatch.Unitary
