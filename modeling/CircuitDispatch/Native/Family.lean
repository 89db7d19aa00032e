import CircuitDispatch.Circuit.Error
import CircuitDispatch.Json.Layout
import CircuitDispatch.Text.Lowercase

/-!
# Families of devices

The families whose native gates a circuit can be lowered to, how a family is
read from a text or recognised in the name of a device, and where each family
puts a logical qubit.
-/

namespace CircuitDispatch

/-- A family of devices with a common set of native gates. -/
inductive Family where
  /-- Trapped ions with `gpi`, `gpi2` and `ms`. -/
  | ionq
  /-- Superconducting lattices of octagons with `rx`, `rz`, `cz`, `cphaseshift` and `xy`. -/
  | rigetti
  /-- Superconducting devices with `rz`, `v`, `x` and `ecr`. -/
  | oqc
  /-- Superconducting devices with `prx` and `cz`. -/
  | iqm
  deriving BEq, DecidableEq, Repr, Inhabited

namespace Family

/-- All families. -/
def all : List Family := [.ionq, .rigetti, .oqc, .iqm]

/-- The name of a family. -/
def name : Family → String
  | .ionq => "ionq"
  | .rigetti => "rigetti"
  | .oqc => "oqc"
  | .iqm => "iqm"

/-- The families by name. -/
def byName : List (String × Family) := all.map fun family => (family.name, family)

/-- Whether the family has no Z rotation of its own, so that rotations about Z are folded into
later gates. -/
def foldsPhases : Family → Bool
  | .ionq => true
  | .iqm => true
  | _ => false

/-- The family that a text names, in any case of letters; otherwise the text in lower case. -/
def parse (text : String) : Except String Family :=
  let name := Text.toLower text
  match byName.lookup name with
  | some family => .ok family
  | none => .error name

/-- The message for a text that names no family. -/
def unknownMessage (name : String) : String := s!"unknown device family: {name}"

/-- The words that tell a family, in the order in which they are looked for. -/
def marks : List (Family × List String) :=
  [(.ionq, ["ionq"]), (.rigetti, ["rigetti", "aspen", "ankaa"]), (.oqc, ["oqc", "lucy"]),
    (.iqm, ["iqm", "garnet"])]

/-- The family of a device, recognised by a word in its identifier. -/
def ofIdentifier? (identifier : String) : Option Family :=
  let text := Text.toLower identifier
  (marks.find? fun (_, words) => words.any fun word => Text.containsWord text word).map (·.1)

/-! ### Placement -/

/-- Octagons have eight qubits and are numbered in tens, the first five from 0 and the next five
from 100. -/
def octagonIndex? (logical : Nat) : Option Nat :=
  let octagon := logical / 8
  let offset := logical % 8
  if octagon < 5 then some (octagon * 10 + offset)
  else if octagon < 10 then some (100 + (octagon - 5) * 10 + offset)
  else none

/-- The physical index of a logical qubit. -/
def physical? : Family → Nat → Option Nat
  | .rigetti, logical => octagonIndex? logical
  | _, logical => some logical

/-! ### Layout -/

/-- The JSON value of a family. -/
def toJson (family : Family) : Json := .string family.name

/-- The family that a JSON value is the layout of. -/
def ofJson? (j : Json) : Option Family := j.oneOf? byName

end Family

end CircuitDispatch
