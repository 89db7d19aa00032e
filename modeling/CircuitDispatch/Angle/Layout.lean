import CircuitDispatch.Angle.Basic
import CircuitDispatch.Json.Layout

/-!
# The layout of angles

An angle is written as the variant of its outermost constructor. A constant
that is not finite is written as `null`, and nothing reads `null` as a number,
so such a constant is refused when it is read back.
-/

namespace CircuitDispatch.Angle

/-- The JSON value of an angle. -/
def toJson : Angle Float → Json
  | .constant v => .tagged "Constant" (.ofFloat v)
  | .symbol name => .tagged "Symbol" (.string name)
  | .pi => .string "Pi"
  | .neg a => .tagged "Neg" a.toJson
  | .add a b => .tagged "Add" (.array [a.toJson, b.toJson])
  | .sub a b => .tagged "Sub" (.array [a.toJson, b.toJson])
  | .mul a b => .tagged "Mul" (.array [a.toJson, b.toJson])
  | .div a b => .tagged "Div" (.array [a.toJson, b.toJson])

/-- How the empty payload of a variant may be written besides `null`. -/
inductive EmptyPayload where
  | nullOnly
  /-- Also as an object without members, as inside an operation. -/
  | orEmptyObject
  deriving DecidableEq

/-- Whether a payload stands for none. -/
def EmptyPayload.admits : EmptyPayload → Json → Bool
  | _, .null => true
  | .orEmptyObject, .object [] => true
  | _, _ => false

mutual

/-- The angle that a JSON value is the layout of. -/
def ofJson? (empty : EmptyPayload) : Json → Option (Angle Float)
  | .string name => if name = "Pi" then some .pi else none
  | .object [(name, payload)] =>
    if name = "Constant" then payload.float?.map .constant
    else if name = "Symbol" then payload.text?.map .symbol
    else if name = "Pi" then if empty.admits payload then some .pi else none
    else if name = "Neg" then (ofJson? empty payload).map .neg
    else if name = "Add" then (operands? empty payload).map fun (a, b) => .add a b
    else if name = "Sub" then (operands? empty payload).map fun (a, b) => .sub a b
    else if name = "Mul" then (operands? empty payload).map fun (a, b) => .mul a b
    else if name = "Div" then (operands? empty payload).map fun (a, b) => .div a b
    else none
  | _ => none

/-- The two operands in an array. -/
def operands? (empty : EmptyPayload) : Json → Option (Angle Float × Angle Float)
  | .array [a, b] =>
    match ofJson? empty a, ofJson? empty b with
    | some a, some b => some (a, b)
    | _, _ => none
  | _ => none

end

end CircuitDispatch.Angle
