import CircuitDispatch.Circuit.Error
import CircuitDispatch.Scalar
import CircuitDispatch.SortedMap

/-!
# Angles

Angles are numbers or small symbolic expressions. Folding a rotation into later
gates only builds sums and differences and simplifies them, so circuits with
free symbols are lowered like others; values are needed only when a program is
written out.

`Angle.eval?` gives the value, `Angle.bind` puts numbers in the place of
symbols, and `Angle.simplify` computes every part that has a value and drops
zero terms of sums and differences.
-/

namespace CircuitDispatch

/-- An angle over scalars `R`. -/
inductive Angle (R : Type) where
  /-- A number. -/
  | constant (value : R)
  /-- A symbol that stands for a number to come. -/
  | symbol (name : String)
  /-- The half turn. -/
  | pi
  | neg (angle : Angle R)
  | add (left right : Angle R)
  | sub (left right : Angle R)
  | mul (left right : Angle R)
  | div (left right : Angle R)
  deriving BEq, DecidableEq, Repr

namespace Angle

variable {R : Type} [Scalar R]

/-- The zero angle. -/
def zero : Angle R := .constant (Scalar.ofNat 0)

instance : Inhabited (Angle R) := ⟨zero⟩

/-- A fraction of the half turn. -/
def piOver (divisor : R) : Angle R := .div .pi (.constant divisor)

/-- The quarter turn. -/
def quarterTurn : Angle R := piOver (Scalar.ofNat 2)

omit [Scalar R] in
/-- Whether a symbol occurs. -/
def isSymbolic : Angle R → Bool
  | .constant _ => false
  | .symbol _ => true
  | .pi => false
  | .neg a => a.isSymbolic
  | .add a b => a.isSymbolic || b.isSymbolic
  | .sub a b => a.isSymbolic || b.isSymbolic
  | .mul a b => a.isSymbolic || b.isSymbolic
  | .div a b => a.isSymbolic || b.isSymbolic

/-- The value of an angle. Free symbols and quotients by zero have none. -/
def eval? : Angle R → Option R
  | .constant v => some v
  | .symbol _ => none
  | .pi => some Scalar.pi
  | .neg a => a.eval?.map (- ·)
  | .add a b => do return (← a.eval?) + (← b.eval?)
  | .sub a b => do return (← a.eval?) - (← b.eval?)
  | .mul a b => do return (← a.eval?) * (← b.eval?)
  | .div a b => do
    let divisor ← b.eval?
    if Scalar.isZero divisor then none else return (← a.eval?) / divisor

/-- Whether an angle has a value that is too small to count as a rotation. -/
def isZero (a : Angle R) : Bool :=
  match a.eval? with
  | some v => Scalar.negligible v
  | none => false

omit [Scalar R] in
/-- The symbols from left to right, as often as they occur. -/
def occurrences : Angle R → List String
  | .constant _ => []
  | .symbol name => [name]
  | .pi => []
  | .neg a => a.occurrences
  | .add a b => a.occurrences ++ b.occurrences
  | .sub a b => a.occurrences ++ b.occurrences
  | .mul a b => a.occurrences ++ b.occurrences
  | .div a b => a.occurrences ++ b.occurrences

omit [Scalar R] in
/-- The free symbols in increasing order. -/
def symbols (a : Angle R) : List String := SortedList.ofList a.occurrences

omit [Scalar R] in
/-- Puts a number in the place of every symbol that has one. -/
def bind (values : String → Option R) : Angle R → Angle R
  | .constant v => .constant v
  | .symbol name =>
    match values name with
    | some v => .constant v
    | none => .symbol name
  | .pi => .pi
  | .neg a => .neg (a.bind values)
  | .add a b => .add (a.bind values) (b.bind values)
  | .sub a b => .sub (a.bind values) (b.bind values)
  | .mul a b => .mul (a.bind values) (b.bind values)
  | .div a b => .div (a.bind values) (b.bind values)

/-! ### Simplification -/

/-- A sum of simplified angles, without a zero term. -/
def sum (a b : Angle R) : Angle R :=
  if a.isZero then b else if b.isZero then a else .add a b

/-- A difference of simplified angles, without a zero term. -/
def difference (a b : Angle R) : Angle R :=
  if b.isZero then a else if a.isZero then .neg b else .sub a b

/-- Computes every part that has a value, and drops zero terms. -/
def simplify (a : Angle R) : Angle R :=
  match a.eval? with
  | some v => .constant v
  | none =>
    match a with
    | .constant v => .constant v
    | .symbol name => .symbol name
    | .pi => .pi
    | .neg a => .neg a.simplify
    | .add a b => sum a.simplify b.simplify
    | .sub a b => difference a.simplify b.simplify
    | .mul a b => .mul a.simplify b.simplify
    | .div a b => .div a.simplify b.simplify

/-! ### Writing -/

/-- The text of an angle. -/
def render : Angle R → String
  | .constant v => Scalar.text v
  | .symbol name => name
  | .pi => "π"
  | .neg a => "-(" ++ a.render ++ ")"
  | .add a b => "(" ++ a.render ++ " + " ++ b.render ++ ")"
  | .sub a b => "(" ++ a.render ++ " - " ++ b.render ++ ")"
  | .mul a b => "(" ++ a.render ++ " * " ++ b.render ++ ")"
  | .div a b => "(" ++ a.render ++ " / " ++ b.render ++ ")"

/-- The name to report for an angle without value: its first symbol, or the whole angle when none
is free. -/
def culprit (a : Angle R) : String := a.symbols.head?.getD a.render

/-- The value of an angle, or the symbol to blame. -/
def value (a : Angle R) : Except CircuitError R :=
  match a.eval? with
  | some v => .ok v
  | none => .error (.unboundParameter a.culprit)

end Angle

end CircuitDispatch
