import CircuitDispatch.Service.Basic
import CircuitDispatch.SortedMap

/-!
# Scripted services

A task service in memory that follows a script, to try out a backend without a
network: the script says which submissions fail, when tasks complete and what
they deliver. The stage keeps the tasks and the requests, and counts the calls.
-/

namespace CircuitDispatch.Rehearsal

/-- A task on the stage. -/
structure ScriptedTask where
  state : TaskState := .queued
  /-- The samples of the task; without them it delivers those of the script. -/
  samples : Option Samples := none
  /-- What a question for the state fails with. -/
  stateError : Option ServiceError := none
  /-- What a question for the samples fails with. -/
  fetchError : Option ServiceError := none
  /-- How often the state was asked for. -/
  queries : Nat := 0

/-- What services and executors remember. -/
structure Stage where
  tasks : SortedMap String ScriptedTask := ∅
  /-- The requests so far, last one first. -/
  requests : List TaskRequest := []
  submits : Nat := 0
  batches : Nat := 0
  states : Nat := 0
  fetches : Nat := 0
  executions : Nat := 0

/-- How a service answers. -/
structure Script where
  /-- Whether a batch is submitted one by one. -/
  plainBatches : Bool := false
  /-- How many handles are missing at the end of a batch. -/
  missingHandles : Nat := 0
  /-- The region of the handles. -/
  region : Option String := some "us-east-1"
  /-- The number of questions for its state after which a pending task completes. -/
  completeAfter : Option Nat := none
  /-- The samples of tasks that have none of their own. -/
  samples : Samples := ⟨[]⟩
  /-- What submissions fail with, by their numbers from 0. -/
  submitErrors : List (String × ServiceError) := []

/-- A call on the stage. -/
abbrev Scene (α : Type) := Call ServiceError Stage α

namespace Script

/-- Takes a request in and makes a task of it. -/
def accept (script : Script) (request : TaskRequest) : Scene TaskHandle := do
  let stage ← getThe Stage
  let number := toString stage.requests.length
  let id := "task-" ++ number
  let stage := { stage with requests := request :: stage.requests }
  match script.submitErrors.lookup number with
  | some e =>
    set stage
    throw e
  | none =>
    set (if stage.tasks.contains id then stage
      else { stage with tasks := stage.tasks.insert id {} })
    return ⟨id, script.region⟩

/-- Submits one request. -/
def submit (script : Script) (request : TaskRequest) : Scene TaskHandle := do
  modifyThe Stage fun stage => { stage with submits := stage.submits + 1 }
  script.accept request

/-- Submits a batch in one call. -/
def submitBatch (script : Script) (requests : List TaskRequest) : Scene BatchHandle := do
  modifyThe Stage fun stage => { stage with batches := stage.batches + 1 }
  let handles ← requests.mapM script.accept
  return ⟨handles.take (handles.length - script.missingHandles)⟩

/-- A task by its name. -/
def task (id : String) : Scene ScriptedTask := do
  match (← getThe Stage).tasks.get? id with
  | some task => return task
  | none => throw (.taskNotFound id)

/-- Keeps a task under a name. -/
def keep (id : String) (task : ScriptedTask) : Scene Unit :=
  modifyThe Stage fun stage => { stage with tasks := stage.tasks.insert id task }

/-- The state of a task, which may complete by being asked for. -/
def state (script : Script) (handle : TaskHandle) : Scene TaskState := do
  modifyThe Stage fun stage => { stage with states := stage.states + 1 }
  let t ← task handle.id
  let t := { t with queries := t.queries + 1 }
  keep handle.id t
  match t.stateError with
  | some e => throw e
  | none =>
    if t.state.isPending && script.completeAfter.any (fun n => n ≤ t.queries) then
      keep handle.id { t with state := .completed }
      return .completed
    else return t.state

/-- The samples of a task. -/
def fetch (script : Script) (handle : TaskHandle) : Scene Samples := do
  modifyThe Stage fun stage => { stage with fetches := stage.fetches + 1 }
  let t ← task handle.id
  match t.fetchError with
  | some e => throw e
  | none =>
    if t.state.isSuccess then return t.samples.getD script.samples
    else throw (.backend s!"task is {t.state.text}")

/-- The service that follows a script. -/
def service (script : Script) : TaskService Stage where
  name := "mock"
  submit := script.submit
  submitBatch :=
    if script.plainBatches then TaskService.oneByOne script.submit else script.submitBatch
  state := script.state
  fetch := script.fetch

end Script

/-- An executor that fails, or delivers given rows, or else a row of ones for each shot, one for
every qubit of the circuit. All its executions have one name. -/
def executor {R : Type} (name : String) (failure : Option ServiceError) (rows : Option Samples) :
    LocalExecutor R Stage where
  name := "scripted"
  execute request circuit := do
    modifyThe Stage fun stage => { stage with executions := stage.executions + 1 }
    match failure, rows with
    | some e, _ => throw e
    | none, some rows => return rows
    | none, none =>
      return ⟨List.replicate request.shots (List.replicate circuit.qubits.length 1)⟩
  freshId := return name

end CircuitDispatch.Rehearsal
