/-!
# Faults of circuits

What can be wrong with an operation, a circuit or an angle, and the message for
each cause.
-/

namespace CircuitDispatch

/-- What is wrong with a circuit. -/
inductive CircuitError where
  /-- A two-qubit operation names one qubit twice. -/
  | duplicateQubit (tag : String) (qubit : Nat)
  /-- A bit outside its declared register is set. -/
  | registerIndexOutOfRange (register : String) (index length : Nat)
  /-- A register is used and not declared. -/
  | undefinedRegister (name : String)
  /-- An angle has no value. -/
  | unboundParameter (name : String)
  deriving DecidableEq, Repr, Inhabited

/-- The message for a fault. -/
def CircuitError.message : CircuitError → String
  | .duplicateQubit tag qubit => s!"Operation '{tag}' acts on qubit {qubit} twice"
  | .registerIndexOutOfRange register index length =>
    s!"Index {index} is out of range for register '{register}' of length {length}"
  | .undefinedRegister name => s!"Register '{name}' is not defined in the circuit"
  | .unboundParameter name => s!"Parameter '{name}' is unbound"

end CircuitDispatch
