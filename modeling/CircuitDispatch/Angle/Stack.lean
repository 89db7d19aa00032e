import CircuitDispatch.Angle.Basic

/-!
# Angles on a stack

Angles built by the words of a stack machine: a constant is pushed, and an
operation takes its operands off the stack, the right one first.
-/

namespace CircuitDispatch.Angle

variable {R : Type} [Scalar R]

/-- The stack after a word, the top first. -/
def afterWord? : String → List (Angle R) → Option (List (Angle R))
  | "pi", stack => some (.pi :: stack)
  | "default", stack => some (zero :: stack)
  | "neg", a :: rest => some (.neg a :: rest)
  | "simplify", a :: rest => some (a.simplify :: rest)
  | "add", b :: a :: rest => some (.add a b :: rest)
  | "sub", b :: a :: rest => some (.sub a b :: rest)
  | "mul", b :: a :: rest => some (.mul a b :: rest)
  | "div", b :: a :: rest => some (.div a b :: rest)
  | _, _ => none

end CircuitDispatch.Angle
