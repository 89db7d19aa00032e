import CircuitDispatch.Circuit.Basic
import CircuitDispatch.Service.Error
import CircuitDispatch.Task.Basic
import CircuitDispatch.Task.Samples

/-!
# Task services and local executors

A task service takes requests and answers questions about tasks; a local
executor runs a program on the spot. Both are given as functions on a world of
their own type, which keeps whatever they remember: a failed call may change
the world as well.
-/

namespace CircuitDispatch

/-- A call that may change the world and may fail. -/
abbrev Call (ε σ α : Type) := ExceptT ε (StateM σ) α

/-- A service for tasks on remote devices. -/
structure TaskService (σ : Type) where
  name : String
  /-- Submits one program. -/
  submit : TaskRequest → Call ServiceError σ TaskHandle
  /-- Submits several programs for one device with one number of shots. -/
  submitBatch : List TaskRequest → Call ServiceError σ BatchHandle
  /-- The state of a task. -/
  state : TaskHandle → Call ServiceError σ TaskState
  /-- The samples of a completed task. -/
  fetch : TaskHandle → Call ServiceError σ Samples

namespace TaskService

variable {σ : Type}

/-- Submits a batch one by one, in order, up to the first error. -/
def oneByOne (submit : TaskRequest → Call ServiceError σ TaskHandle) (requests : List TaskRequest) :
    Call ServiceError σ BatchHandle :=
  return ⟨← requests.mapM submit⟩

/-- A service on which every call fails, for work on local simulators only. -/
def offline : TaskService σ :=
  let submit : TaskRequest → Call ServiceError σ TaskHandle := fun _ => throw unavailable
  { name := "offline"
    submit
    submitBatch := oneByOne submit
    state := fun _ => throw unavailable
    fetch := fun _ => throw unavailable }
where
  unavailable : ServiceError := .backendUnavailable "no remote task service configured"

end TaskService

/-- A simulator in the own process. -/
structure LocalExecutor (R σ : Type) where
  name : String
  /-- Runs a program; the circuit is the one that the program was made from. -/
  execute : TaskRequest → Circuit R → Call ServiceError σ Samples
  /-- A name for an execution that no other execution has. -/
  freshId : StateM σ String

end CircuitDispatch
