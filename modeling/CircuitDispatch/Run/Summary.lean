import CircuitDispatch.Run.Program
import CircuitDispatch.Scalar

/-!
# Summaries of runs

What is shown of runs and their results: rows of bits as texts of zeros and
ones, numbers with their shortest digits, and of a run where it is, what it is
read out into and whether its results are there.
-/

namespace CircuitDispatch

variable {R : Type} [Scalar R]

/-- A row of bits as a text. -/
def bitText (row : List Bool) : Json :=
  .string (String.ofList (row.map fun b => if b then '1' else '0'))

/-- A number as a text. -/
def numberText (x : R) : Json := .string (Scalar.text x)

omit [Scalar R] in
/-- The summary of registers of one kind. -/
def RegisterMap.summary {α : Type} (write : List α → Json) (m : RegisterMap α) : Json :=
  Json.ofMap (Json.ofList write) m

/-- The summary of registers. -/
def Registers.summary (r : Registers R) : Json :=
  .object [("bit", r.bit.summary bitText), ("float", r.float.summary (Json.ofList numberText)),
    ("complex", r.complex.summary
      (Json.ofList fun z => .array [numberText z.1, numberText z.2]))]

omit [Scalar R] in
/-- The summary of the place where a circuit runs. -/
def TaskRef.summary : TaskRef → Json
  | .onSite id => .object [("local", .string id)]
  | .remote h => .object [("remote", .string h.id), ("region", Json.ofOption .string h.region)]

/-- The summary of a circuit's run. -/
def CircuitRun.summary (run : CircuitRun R) : Json :=
  .object [("task", run.task.summary), ("readout", .string run.metadata.readoutName),
    ("resolved", .bool run.isResolved), ("results", Json.ofOption Registers.summary run.results)]

/-- The summary of a measurement's run. -/
def ProgramRun.summary {M : Type} [Measurement M R] (p : ProgramRun M R) : Json :=
  .object [("kind", (Measurement.kind p.measurement).toJson),
    ("runs", Json.ofList CircuitRun.summary p.runs), ("resolved", .natural p.resolvedCount),
    ("complete", .bool p.isComplete), ("merged", p.mergedRegisters.summary)]

/-- The summary of computed values. -/
def valuesSummary (values : SortedMap String R) : Json := Json.ofMap numberText values

/-- The summary of a measurement's outcome. -/
def ProgramOutcome.summary : ProgramOutcome R → Json
  | .registers r => .object [("registers", r.summary)]
  | .values m => .object [("values", valuesSummary m)]

end CircuitDispatch
