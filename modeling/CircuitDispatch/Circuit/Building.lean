import CircuitDispatch.Circuit.Basic

/-!
# Building in place

A circuit grows where it stands: `Building.add` checks an operation, and appends it only if nothing
is wrong with it. `Building.offer` offers operations one by one, whether or not earlier ones were
refused.
-/

namespace CircuitDispatch

variable {R : Type}

/-- A change of a circuit in place, which may be refused. -/
abbrev Building (R α : Type) := ExceptT CircuitError (StateM (Circuit R)) α

namespace Building

/-- Appends an operation that is in order. -/
def add (op : Operation R) : Building R Unit := do
  MonadExcept.ofExcept op.validate
  let c ← get
  MonadExcept.ofExcept (c.checkInputBit op)
  set (⟨c.operations ++ [op]⟩ : Circuit R)

/-- Offers operations one by one and goes on after a refusal. The answers are given in order. -/
def offer (ops : List (Operation R)) : StateM (Circuit R) (List (Except CircuitError Unit)) :=
  ops.mapM fun op => (add op).run

end Building

end CircuitDispatch
