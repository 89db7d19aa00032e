import CircuitDispatch.Measurement.Basic
import CircuitDispatch.Run.Circuit

/-!
# Runs of measurements

The run of a measurement is the list of its circuits' runs in the order of their
submission. They may end in any order; their registers are merged in the order
of submission, so that the later circuit wins where two share a readout. A poll
goes through the runs in order and stops at the first that fails.
-/

namespace CircuitDispatch

variable {R M σ : Type}

/-- The result of a measurement. -/
inductive ProgramOutcome (R : Type) where
  | registers (registers : Registers R)
  /-- Values computed from the registers. -/
  | values (values : SortedMap String R)

/-- A submitted measurement. -/
structure ProgramRun (M R : Type) where
  measurement : M
  runs : List (CircuitRun R)

namespace ProgramRun

/-- The number of runs whose registers are there. -/
def resolvedCount (program : ProgramRun M R) : Nat := program.runs.countP CircuitRun.isResolved

/-- Whether the registers of every run are there. -/
def isComplete (program : ProgramRun M R) : Bool := program.runs.all CircuitRun.isResolved

/-- The registers of the resolved runs, merged in the order of submission. -/
def mergedRegisters (program : ProgramRun M R) : Registers R :=
  .mergeAll (program.runs.filterMap (·.results))

/-- Polls runs in order, up to the first that fails. -/
def pollRuns (service : TaskService σ) :
    List (CircuitRun R) → StateM σ (Except DispatchError Unit × List (CircuitRun R))
  | [] => return (.ok (), [])
  | run :: rest => do
    match ← run.poll service with
    | (.ok _, run) =>
      let (answer, rest) ← pollRuns service rest
      return (answer, run :: rest)
    | (.error e, run) => return (.error e, run :: rest)

/-- Polls every run and answers with the merged registers once all are there. -/
def pollRegisters (service : TaskService σ) (program : ProgramRun M R) :
    StateM σ (Polled (ProgramRun M R) (Registers R)) := do
  let (answer, runs) ← pollRuns service program.runs
  let program := { program with runs }
  match answer with
  | .ok () =>
    return (.ok (if program.isComplete then some program.mergedRegisters else none), program)
  | .error e => return (.error e, program)

variable [Measurement M R]

/-- The outcome of a measurement with these registers. -/
def outcome (m : M) (registers : Registers R) : Except DispatchError (ProgramOutcome R) :=
  if (Measurement.kind m).isRegisterOnly then .ok (.registers registers)
  else
    match Measurement.evaluate m registers with
    | .ok values => .ok (.values values)
    | .error e => .error (.service e)

/-- Polls every run and answers with the outcome once all registers are there. -/
def poll (service : TaskService σ) (program : ProgramRun M R) :
    StateM σ (Polled (ProgramRun M R) (ProgramOutcome R)) := do
  match ← program.pollRegisters service with
  | (.ok (some registers), program) =>
    return ((outcome program.measurement registers).map some, program)
  | (.ok none, program) => return (.ok none, program)
  | (.error e, program) => return (.error e, program)

/-- Polls until the outcome is there, at most so many times. -/
def wait (service : TaskService σ) (polls : Nat) (program : ProgramRun M R) :
    StateM σ (Except DispatchError (ProgramOutcome R) × ProgramRun M R) :=
  waitFor (poll service) polls program

end ProgramRun

end CircuitDispatch
