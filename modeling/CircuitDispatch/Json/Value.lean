/-!
# JSON values

A value keeps what a reader can tell apart: integers and other numbers, and the
members of an object in the order of the text, repetitions included.

A text can be well formed and yet stand for no value, as `1e999` or a string
with half of a surrogate pair does. Such a part is kept as `unreadable`: nothing
is ever read from it, but it may stand in a member that its reader skips.
-/

namespace CircuitDispatch

/-- A JSON value. -/
inductive Json where
  | null
  | bool (value : Bool)
  /-- A number written without fraction and exponent. -/
  | integer (value : Int)
  /-- Any other number. -/
  | number (value : Float)
  | string (value : String)
  | array (items : List Json)
  /-- The members in order. -/
  | object (members : List (String × Json))
  /-- A part of a text that stands for no value. -/
  | unreadable
  deriving Inhabited

namespace Json

mutual

/-- Whether every part of a value can be read. -/
def readable : Json → Bool
  | .unreadable => false
  | .array items => readableItems items
  | .object members => readableMembers members
  | _ => true

/-- Whether all items can be read. -/
def readableItems : List Json → Bool
  | [] => true
  | item :: rest => item.readable && readableItems rest

/-- Whether all members can be read. -/
def readableMembers : List (String × Json) → Bool
  | [] => true
  | (_, value) :: rest => value.readable && readableMembers rest

end

/-- Puts a member behind those with a lesser or equal key. -/
def insertMember (key : String) (value : Json) : List (String × Json) → List (String × Json)
  | [] => [(key, value)]
  | (k, v) :: rest =>
    if key < k then (key, value) :: (k, v) :: rest else (k, v) :: insertMember key value rest

mutual

/-- The same value with the members of every object in key order. -/
def sorted : Json → Json
  | .array items => .array (sortedItems items)
  | .object members => .object (sortedMembers members)
  | .null => .null
  | .bool b => .bool b
  | .integer i => .integer i
  | .number x => .number x
  | .string s => .string s
  | .unreadable => .unreadable

/-- The items, each sorted. -/
def sortedItems : List Json → List Json
  | [] => []
  | item :: rest => item.sorted :: sortedItems rest

/-- The members in key order, their values sorted. -/
def sortedMembers : List (String × Json) → List (String × Json)
  | [] => []
  | (key, value) :: rest => insertMember key value.sorted (sortedMembers rest)

end

/-- The value of a natural number. -/
def natural (n : Nat) : Json := .integer n

/-- The value of a double. A double that is not finite has no number, and is written as `null`. -/
def ofFloat (x : Float) : Json := if x.isFinite then .number x else .null

end Json

end CircuitDispatch
