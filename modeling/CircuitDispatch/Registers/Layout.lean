import CircuitDispatch.Json.Layout
import CircuitDispatch.Registers.Basic

/-!
# The layout of registers

Registers are a record of three objects, each from names to rows. A complex
number is the array of its two parts.
-/

namespace CircuitDispatch

/-- The JSON value of registers of one kind. -/
def RegisterMap.toJson {α : Type} (write : α → Json) (m : RegisterMap α) : Json :=
  Json.ofMap (Json.ofList (Json.ofList write)) m

/-- The registers of one kind that a JSON value is the layout of. -/
def RegisterMap.ofJson? {α : Type} (read : Json → Option α) (j : Json) : Option (RegisterMap α) :=
  j.map? (Json.list? (Json.list? read))

/-- The JSON value of a complex number. -/
def complexToJson (z : Float × Float) : Json := .array [.ofFloat z.1, .ofFloat z.2]

/-- The complex number that a JSON value is the layout of. -/
def complexOfJson? : Json → Option (Float × Float)
  | .array [re, im] => do return (← re.float?, ← im.float?)
  | _ => none

namespace Registers

/-- The JSON value of registers. -/
def toJson (r : Registers Float) : Json :=
  .object [("bit", r.bit.toJson .bool), ("float", r.float.toJson .ofFloat),
    ("complex", r.complex.toJson complexToJson)]

/-- The registers that a JSON value is the layout of. -/
def ofJson? (j : Json) : Option (Registers Float) := do
  match ← j.fields? ["bit", "float", "complex"] with
  | [bit, float, complex] =>
    return ⟨← bit.withDefault? (RegisterMap.ofJson? Json.bool?) ∅,
      ← float.withDefault? (RegisterMap.ofJson? Json.float?) ∅,
      ← complex.withDefault? (RegisterMap.ofJson? complexOfJson?) ∅⟩
  | _ => none

end Registers

end CircuitDispatch
