import CircuitDispatch.Plan.Assembly
import CircuitDispatch.Run.Polling
import CircuitDispatch.Service.Basic

/-!
# Runs of circuits

A run is a submitted circuit whose registers may not be there yet. It is
resolved at most once: from then on every poll answers with the registers and
leaves the service alone.
-/

namespace CircuitDispatch

variable {R σ : Type}

/-- Where a circuit runs. -/
inductive TaskRef where
  /-- It ran in the own process, and its results were there from the start. -/
  | onSite (id : String)
  /-- It is a task at the service. -/
  | remote (handle : TaskHandle)
  deriving DecidableEq, Repr

/-- A submitted circuit. -/
structure CircuitRun (R : Type) where
  task : TaskRef
  metadata : CircuitMetadata R
  /-- The registers, once they are there. -/
  results : Option (Registers R)
  deriving BEq, DecidableEq

namespace CircuitRun

/-- The run of a task that was just submitted. -/
def remote (handle : TaskHandle) (metadata : CircuitMetadata R) : CircuitRun R :=
  ⟨.remote handle, metadata, none⟩

/-- The run of a circuit that was executed in the own process. -/
def onSite (id : String) (metadata : CircuitMetadata R) (results : Registers R) : CircuitRun R :=
  ⟨.onSite id, metadata, some results⟩

/-- Whether the registers are there. -/
def isResolved (run : CircuitRun R) : Bool := run.results.isSome

/-- The run with its registers. -/
def resolve (run : CircuitRun R) (results : Registers R) : CircuitRun R :=
  { run with results := some results }

/-- Asks the service for the results of a completed task. -/
def collect (service : TaskService σ) (run : CircuitRun R) (handle : TaskHandle) :
    StateM σ (Polled (CircuitRun R) (Registers R)) := do
  match ← (service.fetch handle).run with
  | .ok samples =>
    let results := run.metadata.assemble samples
    return (.ok (some results), run.resolve results)
  | .error e => return (.error (.service e), run)

/-- Asks once whether the registers are there. A task that failed or was cancelled is an error. -/
def poll (service : TaskService σ) (run : CircuitRun R) :
    StateM σ (Polled (CircuitRun R) (Registers R)) := do
  match run.results, run.task with
  | some results, _ => return (.ok (some results), run)
  | none, .onSite id =>
    return (.error (.invalidSnapshot s!"local run {id} has no results"), run)
  | none, .remote handle =>
    match ← (service.state handle).run with
    | .ok .completed => run.collect service handle
    | .ok (.failed reason) => return (.error (.remoteTaskFailed handle.id reason), run)
    | .ok .cancelled => return (.error (.remoteTaskCancelled handle.id), run)
    | .ok _ => return (.ok none, run)
    | .error e => return (.error (.service e), run)

/-- Polls until the registers are there, at most so many times. -/
def wait (service : TaskService σ) (polls : Nat) (run : CircuitRun R) :
    StateM σ (Except DispatchError (Registers R) × CircuitRun R) :=
  waitFor (poll service) polls run

end CircuitRun

end CircuitDispatch
