import CircuitDispatch.SortedMap

/-!
# Registers

The results of circuits: registers of bits, of numbers and of complex numbers,
each a list of rows, one a shot, under the name of a readout. Merging lets the
later registers win, name by name and kind by kind.
-/

namespace CircuitDispatch

/-- Registers of one kind by name. -/
abbrev RegisterMap (Value : Type) := SortedMap String (List (List Value))

/-- The registers of one or more circuits. -/
structure Registers (R : Type) where
  bit : RegisterMap Bool
  float : RegisterMap R
  /-- Complex numbers, as their real and imaginary parts. -/
  complex : RegisterMap (R × R)
  deriving BEq, DecidableEq

namespace Registers

variable {R : Type}

/-- No registers. -/
def empty : Registers R := ⟨∅, ∅, ∅⟩

instance : EmptyCollection (Registers R) := ⟨empty⟩

instance : Inhabited (Registers R) := ⟨empty⟩

/-- Whether there is no register of any kind. -/
def isEmpty (r : Registers R) : Bool := r.bit.isEmpty && r.float.isEmpty && r.complex.isEmpty

/-- The registers of both; those of the second replace those of the same kind and name. -/
def merge (r later : Registers R) : Registers R :=
  ⟨r.bit.union later.bit, r.float.union later.float, r.complex.union later.complex⟩

/-- The registers of several results, where later ones win. -/
def mergeAll (results : List (Registers R)) : Registers R := results.foldl merge ∅

end Registers

end CircuitDispatch
