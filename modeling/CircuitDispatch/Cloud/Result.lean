import CircuitDispatch.Dispatch.Error
import CircuitDispatch.Task.Samples

/-!
# Results of cloud tasks

The file of results of a task holds the measured rows, or how often each string
of bits was measured. Counts become rows in the order of the strings.
-/

namespace CircuitDispatch

/-- What the file of results says. -/
structure TaskResult where
  /-- How often each string of bits was measured. -/
  measurementCounts : Option (SortedMap String Nat)
  /-- The rows, one a shot. -/
  measurements : Option (List (List UInt8))
  /-- The qubits in the order of the columns. -/
  measuredQubits : Option (List Nat)

namespace TaskResult

/-- The row of a string of bits. A character of several bytes counts once for each of them. -/
def row (bits : String) : List UInt8 :=
  bits.toList.flatMap fun c => if c = '1' then [1] else List.replicate c.utf8Size 0

/-- The rows that counts stand for, in the order of the strings. -/
def expand (counts : SortedMap String Nat) : List (List UInt8) :=
  counts.entries.flatMap fun (bits, count) => List.replicate count (row bits)

/-- The samples of a result. Measured rows count before counts. -/
def samples (r : TaskResult) : Except DispatchError Samples :=
  match r.measurements, r.measurementCounts with
  | some rows, _ => .ok ⟨rows⟩
  | none, some counts => .ok ⟨expand counts⟩
  | none, none =>
    .error (.unreadableResult "result has neither measurements nor measurementCounts")

/-- The number of a qubit, which has 32 bits. -/
def qubit? (j : Json) : Option Nat := j.nat?.filter (· < UInt32.size)

/-- The result that a JSON value is the layout of. -/
def ofJson? (j : Json) : Option TaskResult := do
  match ← j.fields? ["measurementCounts", "measurements", "measuredQubits"] with
  | [measurementCounts, measurements, measuredQubits] =>
    return ⟨← measurementCounts.withDefault? (Json.optional? (Json.map? Json.nat?)) none,
      ← measurements.withDefault? (Json.optional? (Json.list? (Json.list? Json.byte?))) none,
      ← measuredQubits.withDefault? (Json.optional? (Json.list? qubit?)) none⟩
  | _ => none

end TaskResult

end CircuitDispatch
