import CircuitDispatch.Yaml.Node

/-!
# Typed scalars

What a scalar says where a truth value, a number or nothing is asked for. Only
plain scalars have such a meaning, and literal ones whose tag names the type.
-/

namespace CircuitDispatch.Yaml.Scalar

/-- Whether a scalar may stand for a value of a type other than text. -/
def isTyped (type : String) (s : Scalar) : Bool :=
  s.style = .plain || (s.style = .literal && s.tag = some s!"tag:yaml.org,2002:{type}")

/-- The truth value of a scalar. -/
def bool? (s : Scalar) : Option Bool :=
  if !s.isTyped "bool" then none
  else if ["true", "True", "TRUE"].contains s.text then some true
  else if ["false", "False", "FALSE"].contains s.text then some false
  else none

/-- The number that digits of a base write. -/
def digits? (base : Nat) (digits : List Char) : Option Nat :=
  if digits.isEmpty then none
  else digits.foldlM
    (fun n c => do
      let d ← hexDigit? c
      if d < base then some (base * n + d) else none) 0

/-- The base that the first letters of a number ask for, and its digits. -/
def base? : List Char → Option (Nat × List Char)
  | '0' :: 'x' :: digits => some (16, digits)
  | '0' :: 'o' :: digits => some (8, digits)
  | '0' :: 'b' :: digits => some (2, digits)
  | _ => none

/-- Whether a text starts with a sign. -/
def isSigned : List Char → Bool
  | c :: _ => c = '+' || c = '-'
  | [] => false

/-- The natural number that a text writes, in base ten without leading zeros or in another base
behind its mark. -/
def natural? (text : List Char) : Option Nat :=
  let unsigned := match text with
    | '+' :: rest => rest
    | _ => text
  match base? unsigned with
  | some (base, digits) => if isSigned digits then none else digits? base digits
  | none =>
    let padded := unsigned.length > 1 && unsigned.head? = some '0'
    if isSigned unsigned || padded then none else digits? 10 unsigned

/-- The number of 64 bits that a scalar writes. -/
def nat? (s : Scalar) : Option Nat := do
  if !s.isTyped "int" then none
  else
    let n ← natural? s.text.toList
    if n < UInt64.size then some n else none

/-- Whether a scalar stands for nothing. -/
def isNull (s : Scalar) : Bool :=
  s.style = .plain && ["", "null", "Null", "NULL", "~"].contains s.text

end CircuitDispatch.Yaml.Scalar
