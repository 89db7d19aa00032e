import CircuitDispatch.Json.Layout

/-!
# Tasks

A task is one program at the task service. It is created, waits, runs, and ends
in one of three terminal states; a cancellation passes through a state of its
own. A handle holds what is needed to ask for a task again, also from elsewhere.
-/

namespace CircuitDispatch

/-- The state of a task. -/
inductive TaskState where
  | created
  | queued
  | running
  | completed
  | failed (reason : String)
  | cancelling
  | cancelled
  deriving DecidableEq, Repr, Inhabited

namespace TaskState

/-- Whether the task has ended. -/
def isTerminal : TaskState → Bool
  | .completed => true
  | .failed _ => true
  | .cancelled => true
  | _ => false

/-- Whether the task is still in flight. -/
def isPending : TaskState → Bool
  | .created => true
  | .queued => true
  | .running => true
  | .cancelling => true
  | _ => false

/-- Whether the task has ended with results. -/
def isSuccess (s : TaskState) : Bool := s = .completed

/-- A task has ended exactly if it is not in flight. -/
theorem isTerminal_eq_not_isPending (s : TaskState) : s.isTerminal = !s.isPending := by
  cases s <;> rfl

/-- The states without a reason, by name. -/
def byName : List (String × TaskState) :=
  [("Created", .created), ("Queued", .queued), ("Running", .running), ("Completed", .completed),
    ("Cancelling", .cancelling), ("Cancelled", .cancelled)]

/-- The text of a state. -/
def text : TaskState → String
  | .created => "Created"
  | .queued => "Queued"
  | .running => "Running"
  | .completed => "Completed"
  | .failed reason => s!"Failed: {reason}"
  | .cancelling => "Cancelling"
  | .cancelled => "Cancelled"

/-- The JSON value of a state. -/
def toJson : TaskState → Json
  | .failed reason => .tagged "Failed" (.string reason)
  | s => .string s.text

/-- The state that a JSON value is the layout of. -/
def ofJson? (j : Json) : Option TaskState :=
  match j.variant? with
  | some ("Failed", some payload) => payload.text?.map .failed
  | _ => j.oneOf? byName

end TaskState

/-- A program for the task service. -/
structure TaskRequest where
  /-- The identifier of the device. -/
  device : String
  /-- The text of the program. -/
  source : String
  shots : Nat
  deriving DecidableEq, Repr

namespace TaskRequest

/-- The JSON value of a request. -/
def toJson (r : TaskRequest) : Json :=
  .object [("device", .string r.device), ("source", .string r.source), ("shots", .natural r.shots)]

/-- The request that a JSON value is the layout of. -/
def ofJson? (j : Json) : Option TaskRequest := do
  match ← j.fields? ["device", "source", "shots"] with
  | [device, source, shots] =>
    return ⟨← device.required? Json.text?, ← source.required? Json.text?,
      ← shots.required? Json.nat?⟩
  | _ => none

end TaskRequest

/-- What is needed to ask for a task. -/
structure TaskHandle where
  id : String
  /-- The region in which the task was created, if it is known. -/
  region : Option String
  deriving DecidableEq, Repr

namespace TaskHandle

/-- The JSON value of a handle, without a region that is not known. -/
def toJson (h : TaskHandle) : Json :=
  .object (("id", .string h.id) :: match h.region with
    | some region => [("region", .string region)]
    | none => [])

/-- The handle that a JSON value is the layout of. -/
def ofJson? (j : Json) : Option TaskHandle := do
  match ← j.fields? ["id", "region"] with
  | [id, region] =>
    return ⟨← id.required? Json.text?, ← region.withDefault? (Json.optional? Json.text?) none⟩
  | _ => none

end TaskHandle

/-- The handles of requests that were submitted together, in their order. -/
structure BatchHandle where
  tasks : List TaskHandle
  deriving DecidableEq, Repr

namespace BatchHandle

/-- The JSON value of a batch. -/
def toJson (b : BatchHandle) : Json := .object [("tasks", Json.ofList TaskHandle.toJson b.tasks)]

/-- The batch that a JSON value is the layout of. -/
def ofJson? (j : Json) : Option BatchHandle := do
  match ← j.fields? ["tasks"] with
  | [tasks] => return ⟨← tasks.required? (Json.list? TaskHandle.ofJson?)⟩
  | _ => none

end BatchHandle

end CircuitDispatch
