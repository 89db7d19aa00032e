import CircuitDispatch.Device.Basic
import CircuitDispatch.Plan.Basic
import CircuitDispatch.Run.Circuit

/-!
# Submission

The gateway makes runs of planned circuits. Circuits for remote devices go to
the task service; circuits for simulators in the own process go to the local
executor, and their runs have results at once.
-/

namespace CircuitDispatch

/-- What planned circuits are submitted to. -/
structure Gateway (R σ : Type) where
  service : TaskService σ
  /-- The simulator in the own process, if there is one. -/
  executor : Option (LocalExecutor R σ)

/-- The device of an identifier, or why there is none. -/
def Device.select (identifier : String) (allowHardware : Bool) : Except DispatchError Device :=
  match select? identifier allowHardware with
  | some device => .ok device
  | none => .error (.deviceNotAllowed identifier)

/-- A call of a service or an executor as a step of dispatching. -/
def Call.dispatched {σ α : Type} (call : Call ServiceError σ α) : Call DispatchError σ α :=
  call.adapt .service

namespace Gateway

variable {R σ : Type} [Scalar R]

/-- The request for a planned circuit on a device. -/
def request (device : Device) (plan : Plan R) : Except DispatchError TaskRequest := do
  return ⟨device.identifier, ← plan.program.source, plan.shots⟩

/-- Executes a request in the own process. -/
def execute (gateway : Gateway R σ) (name : String) (request : TaskRequest) (circuit : Circuit R)
    (metadata : CircuitMetadata R) : Call DispatchError σ (CircuitRun R) := do
  match gateway.executor with
  | none => throw (.localSimulatorUnavailable name)
  | some executor =>
    let samples ← (executor.execute request circuit).dispatched
    let id ← executor.freshId
    return .onSite id metadata (metadata.assemble samples)

/-- Submits a planned circuit. The text of its program is made first. -/
def submit (gateway : Gateway R σ) (device : Device) (circuit : Circuit R) (plan : Plan R) :
    Call DispatchError σ (CircuitRun R) := do
  let request ← MonadExcept.ofExcept (request device plan)
  match device with
  | .onSite name => gateway.execute name request circuit plan.metadata
  | .remote _ _ => return .remote (← (gateway.service.submit request).dispatched) plan.metadata

/-- Checks that the circuits of a batch share one number of shots. -/
def checkShots (shots : List Nat) : Except DispatchError Unit :=
  match shots with
  | [] => .ok ()
  | first :: rest => if rest.all (· = first) then .ok () else .error (.heterogeneousShots shots)

/-- Submits planned circuits to the service as one batch. -/
def submitRemoteBatch (gateway : Gateway R σ) (device : Device) (plans : List (Plan R)) :
    Call DispatchError σ (List (CircuitRun R)) := do
  let requests ← MonadExcept.ofExcept (plans.mapM (request device))
  let batch ← (gateway.service.submitBatch requests).dispatched
  if batch.tasks.length = plans.length then
    return batch.tasks.zipWith (fun handle plan => .remote handle plan.metadata) plans
  else
    throw (.cloud s!"batch of {plans.length} programs returned {batch.tasks.length} tasks")

/-- Submits planned circuits that share one number of shots. -/
def submitBatch (gateway : Gateway R σ) (device : Device) (items : List (Circuit R × Plan R)) :
    Call DispatchError σ (List (CircuitRun R)) := do
  MonadExcept.ofExcept (checkShots (items.map (·.2.shots)))
  if device.isLocal then items.mapM fun (circuit, plan) => gateway.submit device circuit plan
  else gateway.submitRemoteBatch device (items.map (·.2))

end Gateway

end CircuitDispatch
