import CircuitDispatch.Json.Layout

/-!
# Samples

The rows that a finished task delivers, one for each shot. A sample other than
zero counts as a one.
-/

namespace CircuitDispatch

/-- The samples of a task, one row a shot. -/
structure Samples where
  rows : List (List UInt8)
  deriving DecidableEq, Repr

namespace Samples

/-- The number of shots. -/
def shots (s : Samples) : Nat := s.rows.length

/-- The length of the longest row. -/
def width (s : Samples) : Nat := (s.rows.map List.length).foldl max 0

/-- Every sample as a bit. -/
def bits (s : Samples) : List (List Bool) := s.rows.map fun row => row.map fun v => 0 < v

/-- The JSON value of samples. -/
def toJson (s : Samples) : Json := Json.ofList (Json.ofList fun v => .natural v.toNat) s.rows

/-- The samples that a JSON value is the layout of. -/
def ofJson? (j : Json) : Option Samples :=
  (j.list? (Json.list? Json.byte?)).map Samples.mk

end Samples

end CircuitDispatch
