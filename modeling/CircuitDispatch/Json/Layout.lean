import CircuitDispatch.Json.Value
import CircuitDispatch.Decimal.Reading
import CircuitDispatch.SortedMap

/-!
# Layouts

How values of other types are written as JSON and read back. A record is
written as an object and read from an object or from the array of its fields in
order; members that the record does not name are skipped. A variant without
payload is written as its name, one with a payload as an object with one
member.
-/

namespace CircuitDispatch.Json

/-! ### Plain values -/

/-- A truth value. -/
def bool? : Json → Option Bool
  | .bool b => some b
  | _ => none

/-- A natural number, written as an integer. -/
def nat? : Json → Option Nat
  | .integer i => if 0 ≤ i then some i.toNat else none
  | _ => none

/-- A natural number of one byte. -/
def byte? (j : Json) : Option UInt8 :=
  match j.nat? with
  | some n => if n < 256 then some (UInt8.ofNat n) else none
  | none => none

/-- A double, written as any number. -/
def float? : Json → Option Float
  | .integer i => some (Decimal.ofInt i)
  | .number x => some x
  | _ => none

/-- A text. -/
def text? : Json → Option String
  | .string s => some s
  | _ => none

/-- A value or `null`. -/
def optional? {α : Type} (read : Json → Option α) : Json → Option (Option α)
  | .null => some none
  | j => (read j).map some

/-- A list. -/
def list? {α : Type} (read : Json → Option α) : Json → Option (List α)
  | .array items => items.mapM read
  | _ => none

/-- A map with texts as keys; of two members with one key the later counts. -/
def map? {α : Type} (read : Json → Option α) : Json → Option (SortedMap String α)
  | .object members =>
    (members.mapM fun m => (read m.2).map fun v => (m.1, v)).map SortedMap.ofList
  | _ => none

/-- The items of a list as JSON. -/
def ofList {α : Type} (write : α → Json) (l : List α) : Json := .array (l.map write)

/-- A value, or `null` for none. -/
def ofOption {α : Type} (write : α → Json) : Option α → Json
  | none => .null
  | some a => write a

/-- A map as an object, in key order. -/
def ofMap {α : Type} (write : α → Json) (m : SortedMap String α) : Json :=
  .object (m.entries.map fun e => (e.1, write e.2))

/-! ### Records -/

/-- What a record's text says about one field. -/
inductive Field where
  /-- The field has this value. -/
  | given (value : Json)
  /-- The object has no such member. -/
  | unnamed
  /-- The array ends before this field. -/
  | beyond

/-- The fields of a record with these names. A field given twice and an array with too many items
are refused. -/
def fields? (names : List String) : Json → Option (List Field)
  | .object members =>
    names.mapM fun name =>
      match members.filter (fun m => m.1 == name) with
      | [] => some .unnamed
      | [m] => some (.given m.2)
      | _ => none
  | .array items =>
    if items.length ≤ names.length then
      some (items.map .given ++ List.replicate (names.length - items.length) .beyond)
    else none
  | _ => none

namespace Field

variable {α : Type}

/-- A field that must be given. -/
def required? (read : Json → Option α) : Field → Option α
  | .given j => read j
  | _ => none

/-- A field that has a value of its own when it is not given. -/
def withDefault? (read : Json → Option α) (default : α) : Field → Option α
  | .given j => read j
  | _ => some default

/-- A field that may be `null` or left out of an object. -/
def nullable? (read : Json → Option α) : Field → Option (Option α)
  | .given j => optional? read j
  | .unnamed => some none
  | .beyond => none

end Field

/-! ### Variants -/

/-- The name of a variant and its payload. -/
def variant? : Json → Option (String × Option Json)
  | .string name => some (name, none)
  | .object [(name, payload)] => some (name, some payload)
  | _ => none

/-- Whether a payload stands for none. -/
def isNoPayload : Option Json → Bool
  | none => true
  | some .null => true
  | _ => false

/-- A variant with a payload. -/
def tagged (name : String) (payload : Json) : Json := .object [(name, payload)]

/-- A variant without payload, out of a list of names and their meanings. -/
def oneOf? {α : Type} (options : List (String × α)) (j : Json) : Option α :=
  match j.variant? with
  | some (name, payload) => if isNoPayload payload then options.lookup name else none
  | none => none

end CircuitDispatch.Json
