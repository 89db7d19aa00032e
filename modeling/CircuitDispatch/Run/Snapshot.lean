import CircuitDispatch.Run.Program

/-!
# Snapshots of runs

A run can be written as a text and taken up again from it elsewhere. A record
holds what the text says; not every record is a run: a local run has its
results, and a remote run names its task.
-/

namespace CircuitDispatch

/-- Where the run of a record is. -/
inductive RunKind where
  | onSite
  | remote
  deriving DecidableEq, Repr

namespace RunKind

/-- The kinds by name. -/
def byName : List (String × RunKind) := [("local", .onSite), ("remote", .remote)]

/-- The JSON value of a kind. -/
def toJson : RunKind → Json
  | .onSite => .string "local"
  | .remote => .string "remote"

/-- The kind that a JSON value is the layout of. -/
def ofJson? (j : Json) : Option RunKind := j.oneOf? byName

end RunKind

/-- What the snapshot of a circuit's run says. -/
structure CircuitRecord (R : Type) where
  kind : RunKind
  taskIdentity : Option String
  region : Option String
  metadata : CircuitMetadata R
  results : Option (Registers R)
  deriving BEq, DecidableEq

namespace CircuitRecord

/-- The JSON value of a record. -/
def toJson (r : CircuitRecord Float) : Json :=
  .object [("kind", r.kind.toJson), ("task_identity", Json.ofOption .string r.taskIdentity),
    ("region_or_locator", Json.ofOption .string r.region), ("metadata", r.metadata.toJson),
    ("resolved_results", Json.ofOption Registers.toJson r.results)]

/-- The record that a JSON value is the layout of. -/
def ofJson? (j : Json) : Option (CircuitRecord Float) := do
  match ← j.fields? ["kind", "task_identity", "region_or_locator", "metadata", "resolved_results"]
  with
  | [kind, taskIdentity, region, metadata, results] =>
    return ⟨← kind.required? RunKind.ofJson?,
      ← taskIdentity.withDefault? (Json.optional? Json.text?) none,
      ← region.withDefault? (Json.optional? Json.text?) none,
      ← metadata.required? CircuitMetadata.ofJson?,
      ← results.withDefault? (Json.optional? Registers.ofJson?) none⟩
  | _ => none

end CircuitRecord

/-- What the snapshot of a measurement's run says. -/
structure ProgramRecord (R : Type) where
  kind : MeasurementKind
  /-- The measurement as a text. -/
  payload : String
  runs : List (CircuitRecord R)
  deriving BEq, DecidableEq

namespace ProgramRecord

/-- The JSON value of a record. -/
def toJson (r : ProgramRecord Float) : Json :=
  .object [("measurement_kind", r.kind.toJson), ("measurement_payload", .string r.payload),
    ("circuit_runs", Json.ofList CircuitRecord.toJson r.runs)]

/-- The record that a JSON value is the layout of. -/
def ofJson? (j : Json) : Option (ProgramRecord Float) := do
  match ← j.fields? ["measurement_kind", "measurement_payload", "circuit_runs"] with
  | [kind, payload, runs] =>
    return ⟨← kind.required? MeasurementKind.ofJson?, ← payload.required? Json.text?,
      ← runs.required? (Json.list? CircuitRecord.ofJson?)⟩
  | _ => none

end ProgramRecord

/-- What a text says, by its layout. -/
def readLayout {α : Type} (read : Json → Option α) (text : String) : Except DispatchError α :=
  match (Json.parse? text).bind read with
  | some a => .ok a
  | none => .error .json

namespace CircuitRun

variable {R : Type}

/-- The record of a run. -/
def toRecord (run : CircuitRun R) : CircuitRecord R :=
  match run.task with
  | .onSite id => ⟨.onSite, some id, none, run.metadata, run.results⟩
  | .remote handle => ⟨.remote, some handle.id, handle.region, run.metadata, run.results⟩

/-- The run of a record. -/
def ofRecord (r : CircuitRecord R) : Except DispatchError (CircuitRun R) :=
  match r.kind, r.taskIdentity with
  | .onSite, id =>
    if r.results.isNone then .error (.invalidSnapshot "local run without results")
    else .ok ⟨.onSite (id.getD ""), r.metadata, r.results⟩
  | .remote, some id => .ok ⟨.remote ⟨id, r.region⟩, r.metadata, r.results⟩
  | .remote, none => .error (.invalidSnapshot "remote run without task identity")

/-- The snapshot of a run. -/
def save (run : CircuitRun Float) : String := run.toRecord.toJson.render

/-- The run of a snapshot. -/
def load (text : String) : Except DispatchError (CircuitRun Float) := do
  ofRecord (← readLayout CircuitRecord.ofJson? text)

end CircuitRun

namespace ProgramRun

variable {M R : Type} [Measurement M R]

/-- The record of a run. -/
def toRecord (program : ProgramRun M R) : ProgramRecord R :=
  ⟨Measurement.kind program.measurement, Measurement.payload program.measurement,
    program.runs.map CircuitRun.toRecord⟩

/-- The run of a record. The measurement is read first. -/
def ofRecord (r : ProgramRecord R) : Except DispatchError (ProgramRun M R) := do
  let measurement ← (Measurement.ofPayload r.kind r.payload).mapError .service
  return ⟨measurement, ← r.runs.mapM CircuitRun.ofRecord⟩

end ProgramRun

namespace ProgramRun

variable {M : Type} [Measurement M Float]

/-- The snapshot of a run. -/
def save (program : ProgramRun M Float) : String :=
  program.toRecord.toJson.render

/-- The run of a snapshot. -/
def load (text : String) : Except DispatchError (ProgramRun M Float) := do
  ofRecord (← readLayout ProgramRecord.ofJson? text)

end ProgramRun

end CircuitDispatch
