import CircuitDispatch.Circuit.Operation

/-!
# Circuits

A circuit is a list of operations whose order matters. `Circuit.add` refuses an
operation that is faulty by itself and a static bit outside its declared
register; concatenation checks nothing.
-/

namespace CircuitDispatch

variable {R : Type}

/-- A sequence of operations. -/
structure Circuit (R : Type) where
  /-- The operations in order. -/
  operations : List (Operation R)
  deriving BEq, DecidableEq

namespace Circuit

/-- The circuit without operations. -/
def empty : Circuit R := ⟨[]⟩

instance : Inhabited (Circuit R) := ⟨empty⟩

instance : Append (Circuit R) where
  append a b := ⟨a.operations ++ b.operations⟩

@[simp] theorem operations_append (a b : Circuit R) :
    (a ++ b).operations = a.operations ++ b.operations := rfl

/-- The number of operations, declarations included. -/
def size (c : Circuit R) : Nat := c.operations.length

/-- The operations with a given name. -/
def withTag (c : Circuit R) (tag : String) : List (Operation R) :=
  c.operations.filter (fun op => op.tag == tag)

/-- The qubits that gates and measurements name, in increasing order. -/
def qubits (c : Circuit R) : List Nat :=
  SortedList.ofList (c.operations.flatMap Operation.qubits)

/-- One more than the highest qubit. -/
def numberOfQubits (c : Circuit R) : Nat :=
  match c.qubits.getLast? with
  | some highest => highest + 1
  | none => 0

/-- The length of a bit register, as first declared. -/
def bitRegisterLength? (c : Circuit R) (name : String) : Option Nat :=
  c.operations.findSome? fun
    | .define .bit defined length _ => if defined = name then some length else none
    | _ => none

/-- The static bits of a register in order. -/
def inputBits (c : Circuit R) (name : String) : List (Nat × Bool) :=
  c.operations.filterMap fun
    | .inputBit register index value => if register = name then some (index, value) else none
    | _ => none

/-- Puts numbers in the place of symbols in every angle. -/
def bind (values : String → Option R) (c : Circuit R) : Circuit R :=
  ⟨c.operations.map (Operation.bind values)⟩

/-- Whether some angle has a free symbol. -/
def isParametrized (c : Circuit R) : Bool :=
  c.operations.any fun op => op.angles.any Angle.isSymbolic

/-! ### Building -/

/-- Checks a static bit against the register declared so far. -/
def checkInputBit (c : Circuit R) : Operation R → Except CircuitError Unit
  | .inputBit name index _ =>
    match c.bitRegisterLength? name with
    | some length =>
      if length ≤ index then .error (.registerIndexOutOfRange name index length) else .ok ()
    | none => .ok ()
  | _ => .ok ()

/-- Appends an operation that is in order. -/
def add (c : Circuit R) (op : Operation R) : Except CircuitError (Circuit R) := do
  op.validate
  c.checkInputBit op
  return ⟨c.operations ++ [op]⟩

/-- The circuit of operations that are each in order when their turn comes. -/
def ofOperations (ops : List (Operation R)) : Except CircuitError (Circuit R) :=
  ops.foldlM add empty

end Circuit

end CircuitDispatch
