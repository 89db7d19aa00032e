import CircuitDispatch.Config.Basic
import CircuitDispatch.Native.Lowering
import CircuitDispatch.Service.Error

/-!
# Errors of dispatching

Everything that can keep a circuit from being run: a circuit that cannot be
planned, a limit, a device that is not allowed, a task that ends badly, and the
errors of the parts that take part in a run. A service reports such an error as
one of its own, `DispatchError.toServiceError`.
-/

namespace CircuitDispatch

/-- What a limit bounds. -/
inductive LimitKind where
  | shots
  | length
  deriving DecidableEq, Repr

/-- The word for a limit. -/
def LimitKind.text : LimitKind → String
  | .shots => "shots"
  | .length => "length"

/-- Why circuits are not run or have no results. -/
inductive DispatchError where
  /-- A circuit declares its number of shots more than once. -/
  | ambiguousMeasurement (count : Nat)
  /-- An operation has no place on devices of the family. -/
  | unsupportedOperation (tag : String) (family : Family)
  | limitExceeded (kind : LimitKind) (requested limit : Nat)
  /-- The device costs money and is not allowed. -/
  | deviceNotAllowed (identifier : String)
  /-- The circuits of a batch want different numbers of shots. -/
  | heterogeneousShots (shots : List Nat)
  | remoteTaskFailed (task reason : String)
  | remoteTaskCancelled (task : String)
  | pollTimeout (polls : Nat)
  /-- Native programs are wanted for a device of no known family. -/
  | noFamily (device : String)
  | localSimulatorUnavailable (device : String)
  /-- No place for results is configured. -/
  | missingBucket
  /-- The cloud refuses a request, or its answer does not fit. -/
  | cloud (reason : String)
  /-- The results cannot be downloaded. -/
  | storage (reason : String)
  | unreadableResult (reason : String)
  | unknownTask (arn : String)
  /-- A stored run contradicts itself. -/
  | invalidSnapshot (reason : String)
  | compile (error : CompileError)
  | service (error : ServiceError)
  /-- A text is not JSON or not the layout of what it should hold. -/
  | json
  | config (error : ConfigError)
  deriving DecidableEq, Repr

namespace DispatchError

/-- The error of a compilation; an operation without place is an error of its own. -/
def ofCompile : CompileError → DispatchError
  | .unsupportedOperation tag family => .unsupportedOperation tag family
  | error => .compile error

/-- The message for an error. -/
def message : DispatchError → String
  | .ambiguousMeasurement count =>
    s!"Circuit declares the number of measurements {count} times; at most one is allowed"
  | .unsupportedOperation tag family => s!"Operation '{tag}' is not supported by {family.name}"
  | .limitExceeded kind requested limit =>
    s!"Requested {kind.text} {requested} exceeds the limit of {limit}"
  | .deviceNotAllowed identifier =>
    s!"Device '{identifier}' is not a simulator; "
      ++ "set allow_hardware to run on cost-incurring devices"
  | .heterogeneousShots shots =>
    let list := ", ".intercalate (shots.map fun n => toString n)
    s!"Batch circuits must share one shot count, found [{list}]"
  | .remoteTaskFailed task reason => s!"Task {task} failed: {reason}"
  | .remoteTaskCancelled task => s!"Task {task} was cancelled"
  | .pollTimeout polls => s!"Result not available after {polls} polls"
  | .noFamily device => s!"No verbatim translator matches device '{device}'"
  | .localSimulatorUnavailable device =>
    s!"Local simulator '{device}' selected but no local executor is configured"
  | .missingBucket =>
    "S3 bucket not configured. Set VERBATIM_BRAKET_S3_BUCKET environment variable."
  | .cloud reason => s!"Braket API error: {reason}"
  | .storage reason => s!"S3 error: {reason}"
  | .unreadableResult reason => s!"Failed to parse task result: {reason}"
  | .unknownTask arn => s!"Invalid task ARN: {arn}"
  | .invalidSnapshot reason => s!"Invalid queued-run snapshot: {reason}"
  | .compile error => s!"Compilation error: {error.message}"
  | .service error => error.message
  | .json => "JSON error: unexpected layout"
  | .config error => error.message

/-- The error that a service reports for an error of dispatching. -/
def toServiceError : DispatchError → ServiceError
  | .service error => error
  | .missingBucket => .configuration missingBucket.message
  | .config error => .configuration error.message
  | .remoteTaskFailed _ reason => .taskFailed reason
  | .remoteTaskCancelled _ => .taskCancelled
  | .unknownTask arn => .taskNotFound arn
  | .deviceNotAllowed identifier => .backendUnavailable (deviceNotAllowed identifier).message
  | .localSimulatorUnavailable device =>
    .backendUnavailable (localSimulatorUnavailable device).message
  | .unsupportedOperation tag family => .unsupported (unsupportedOperation tag family).message
  | .json => .serialization
  | error => .backend error.message

end DispatchError

end CircuitDispatch
