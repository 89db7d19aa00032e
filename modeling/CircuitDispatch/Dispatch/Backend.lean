import CircuitDispatch.Dispatch.Gateway
import CircuitDispatch.Run.Program

/-!
# Backends

A backend runs circuits and measurements on one device. Submitting returns as
soon as the service has the work; running also waits for the results. All
circuits of a submission are planned before the first one is submitted.
-/

namespace CircuitDispatch

/-- A device with everything that running circuits on it needs. -/
structure Backend (R σ : Type) where
  config : Config
  gateway : Gateway R σ
  policy : PollPolicy

namespace Backend

variable {R M σ : Type}

/-- A backend over a task service; the configuration must be in order. -/
def create (config : Config) (service : TaskService σ) : Except DispatchError (Backend R σ) := do
  config.validate.mapError .config
  return ⟨config, ⟨service, none⟩, {}⟩

/-- The backend with a simulator in the own process. -/
def withExecutor (b : Backend R σ) (executor : LocalExecutor R σ) : Backend R σ :=
  { b with gateway := { b.gateway with executor := some executor } }

/-- A backend for simulators in the own process only. -/
def onSite (config : Config) (executor : LocalExecutor R σ) :
    Except DispatchError (Backend R σ) := do
  return (← create config .offline).withExecutor executor

/-- The service that runs are polled at. -/
def service (b : Backend R σ) : TaskService σ := b.gateway.service

/-- The configured device, if the configuration allows it. -/
def device (b : Backend R σ) : Except DispatchError Device :=
  Device.select b.config.device b.config.allowHardware

/-- Waits for the registers of a run. -/
def await (b : Backend R σ) (run : CircuitRun R) : Call DispatchError σ (Registers R) :=
  ExceptT.mk do
    let (answer, _) ← run.wait b.service b.policy.maxPolls
    return answer

variable [Scalar R]

/-- Plans and submits a circuit. -/
def submit (b : Backend R σ) (c : Circuit R) : Call DispatchError σ (CircuitRun R) := do
  let device ← MonadExcept.ofExcept b.device
  let plan ← MonadExcept.ofExcept (Plan.make b.config c)
  b.gateway.submit device c plan

/-- Runs a circuit. -/
def run (b : Backend R σ) (c : Circuit R) : Call DispatchError σ (Registers R) := do
  b.await (← b.submit c)

/-- The circuits, each with its plan. -/
def planAll (b : Backend R σ) (circuits : List (Circuit R)) :
    Except DispatchError (List (Circuit R × Plan R)) :=
  circuits.mapM fun c => return (c, ← Plan.make b.config c)

/-- Plans all circuits, then submits them, as one batch if the configuration says so. -/
def submitAll (b : Backend R σ) (circuits : List (Circuit R)) :
    Call DispatchError σ (List (CircuitRun R)) := do
  let device ← MonadExcept.ofExcept b.device
  let items ← MonadExcept.ofExcept (b.planAll circuits)
  if b.config.batchMode then b.gateway.submitBatch device items
  else items.mapM fun (c, plan) => b.gateway.submit device c plan

/-- Runs circuits and merges their registers in the order of the circuits. -/
def runAll (b : Backend R σ) (circuits : List (Circuit R)) :
    Call DispatchError σ (Registers R) := do
  let runs ← b.submitAll circuits
  return .mergeAll (← runs.mapM b.await)

variable [Measurement M R]

/-- Submits every circuit of a measurement. -/
def submitMeasurement (b : Backend R σ) (m : M) : Call DispatchError σ (ProgramRun M R) := do
  return ⟨m, ← b.submitAll (Measurement.submittedCircuits m)⟩

/-- Runs every circuit of a measurement and merges their registers. -/
def measureRegisters (b : Backend R σ) (m : M) : Call DispatchError σ (Registers R) :=
  b.runAll (Measurement.submittedCircuits m)

/-- Runs a measurement and computes its values. -/
def measure (b : Backend R σ) (m : M) : Call DispatchError σ (SortedMap String R) := do
  let registers ← b.measureRegisters m
  MonadExcept.ofExcept ((Measurement.evaluate m registers).mapError .service)

omit [Scalar R] in
/-- Waits for the outcome of a submitted measurement. -/
def awaitProgram (b : Backend R σ) (program : ProgramRun M R) :
    StateM σ (Except DispatchError (ProgramOutcome R) × ProgramRun M R) :=
  program.wait b.service b.policy.maxPolls

end Backend

end CircuitDispatch
