import CircuitDispatch.Measurement.Kind

/-!
# Errors of services and measurements

What a task service, a local executor or a measurement can report. Their texts
come from outside; the messages put them in a frame.
-/

namespace CircuitDispatch

/-- An error of a service, an executor or a measurement. -/
inductive ServiceError where
  | backendUnavailable (reason : String)
  | submissionFailed (reason : String)
  | taskFailed (reason : String)
  | taskCancelled
  | taskNotFound (id : String)
  /-- A text is not the layout of what it should hold. -/
  | serialization
  | configuration (reason : String)
  | unsupported (reason : String)
  /-- A stored measurement is of another kind than its reader. -/
  | kindMismatch (expected found : MeasurementKind)
  | backend (reason : String)
  deriving DecidableEq, Repr

/-- The message for an error. -/
def ServiceError.message : ServiceError → String
  | .backendUnavailable reason => s!"Backend not available: {reason}"
  | .submissionFailed reason => s!"Task submission failed: {reason}"
  | .taskFailed reason => s!"Task failed: {reason}"
  | .taskCancelled => "Task cancelled"
  | .taskNotFound id => s!"Task not found: {id}"
  | .serialization => "Serialization error: unexpected layout"
  | .configuration reason => s!"Configuration error: {reason}"
  | .unsupported reason => s!"Unsupported feature: {reason}"
  | .kindMismatch expected found =>
    s!"Measurement kind mismatch: expected {expected.name}, found {found.name}"
  | .backend reason => s!"Backend error: {reason}"

end CircuitDispatch
