import CircuitDispatch.Cloud.Result
import CircuitDispatch.Config.Environment
import CircuitDispatch.Device.Identifier
import CircuitDispatch.Dispatch.Description
import CircuitDispatch.Json.Parser
import CircuitDispatch.Json.Printer
import CircuitDispatch.Service.Basic

/-!
# The cloud as a task service

A client creates tasks in its home region, asks for their states, and reads
their results from the storage that the task names. A task in another region is
asked for there: the region is the one that its handle records, or the one that
its resource name tells, or else the home region.

The cloud itself is given by three requests, each sent to one region.
-/

namespace CircuitDispatch

/-- The state of a task as the cloud tells it. -/
inductive CloudStatus where
  | created
  | queued
  | running
  | completed
  | failed
  | cancelling
  | cancelled
  /-- A state that has no meaning here. -/
  | unknown (name : String)
  deriving DecidableEq, Repr

/-- What the cloud tells about a task. -/
structure CloudTask where
  status : CloudStatus
  failureReason : Option String
  /-- The bucket of the results. -/
  bucket : String
  /-- The directory of the results. -/
  directory : String

/-- A task to create. -/
structure CloudOrder where
  device : String
  /-- The program with its header, as JSON text. -/
  action : String
  shots : Nat
  bucket : String
  directory : String

/-- The requests to the cloud, each with the region it is sent to. A request that fails tells the
reason as a text. -/
structure Cloud (σ : Type) where
  /-- Creates a task and answers its resource name. -/
  create : (region : String) → CloudOrder → Call String σ String
  describe : (region arn : String) → Call String σ CloudTask
  /-- Answers the content of a stored object. -/
  download : (region bucket key : String) → Call String σ String

/-- A client of the cloud. -/
structure CloudClient where
  /-- The bucket for results. -/
  bucket : String
  /-- The directory for results. -/
  directory : String
  /-- The home region. -/
  region : String
  deriving DecidableEq, Repr

namespace CloudClient

variable {σ : Type}

/-- The client that the environment describes; a bucket must be named. -/
def ofEnvironment (env : Environment) : Except DispatchError CloudClient :=
  match env.text? "VERBATIM_BRAKET_S3_BUCKET" with
  | none => .error .missingBucket
  | some bucket => .ok {
      bucket
      directory := (env.text? "VERBATIM_BRAKET_S3_PREFIX").getD "verbatim-results"
      region := (env.text? "AWS_REGION").getD "us-east-1" }

/-- The description of a client, which never shows credentials. -/
def describe (client : CloudClient) : String :=
  describeRecord "BraketClient"
    [("s3_bucket", Text.quoted client.bucket), ("s3_prefix", Text.quoted client.directory),
      ("region", Text.quoted client.region), ("credentials", Text.quoted "[REDACTED]")]

/-! ### Creating tasks -/

/-- The action that runs a program. -/
def action (source : String) : String :=
  (Json.object
    [("braketSchemaHeader",
        .object [("name", .string "braket.ir.openqasm.program"), ("version", .string "1")]),
      ("source", .string source)]).render

/-- Creates a task in the home region. The number of shots must fit a signed word. -/
def create (cloud : Cloud σ) (client : CloudClient) (device source : String) (shots : Nat) :
    Call DispatchError σ String :=
  if Nat.pow 2 63 ≤ shots then throw (.cloud s!"shot count {shots} out of range")
  else
    (cloud.create client.region
      ⟨device, action source, shots, client.bucket, client.directory⟩).adapt .cloud

/-! ### Asking for tasks -/

/-- What a failed question for a task means. -/
def describeError (arn reason : String) : DispatchError :=
  if Text.containsWord reason "ResourceNotFoundException" then .unknownTask arn else .cloud reason

/-- What the cloud tells about a task in a region. -/
def taskIn (cloud : Cloud σ) (region arn : String) : Call DispatchError σ CloudTask :=
  (cloud.describe region arn).adapt (describeError arn)

/-- The state that a status stands for; one without meaning counts as a failure. -/
def stateOf (task : CloudTask) : TaskState :=
  match task.status with
  | .created => .created
  | .queued => .queued
  | .running => .running
  | .completed => .completed
  | .failed => .failed (task.failureReason.getD "Unknown failure")
  | .cancelling => .cancelling
  | .cancelled => .cancelled
  | .unknown name =>
    .failed s!"Unknown status Unknown(UnknownVariantValue({Text.quoted name}))"

/-- The state of a task in a region. -/
def stateIn (cloud : Cloud σ) (region arn : String) : Call DispatchError σ TaskState := do
  return stateOf (← taskIn cloud region arn)

/-! ### Results -/

/-- A list of characters without slashes at its end. -/
def dropSlashes (s : List Char) : List Char := (s.reverse.dropWhile (· = '/')).reverse

/-- The bucket and the directory in it: a directory with a scheme names its own bucket. -/
def locate (bucket : String) (directory : List Char) : String × List Char :=
  let scheme := "s3://".toList
  let rest := directory.drop scheme.length
  if scheme.isPrefixOf directory && rest.contains '/' then
    (String.ofList (rest.takeWhile (· ≠ '/')), (rest.dropWhile (· ≠ '/')).drop 1)
  else (bucket, directory)

/-- The bucket and the key of the file of results for a directory. -/
def resultsLocation (bucket directory : String) : String × String :=
  let (bucket, directory) := locate bucket directory.toList
  let directory := dropSlashes directory
  let file := "results.json".toList
  let key :=
    if file.isSuffixOf directory then directory
    else if directory.isEmpty then file
    else directory ++ '/' :: file
  (bucket, String.ofList key)

/-- The results of a task in a region. -/
def resultIn (cloud : Cloud σ) (region arn : String) : Call DispatchError σ TaskResult := do
  let task ← taskIn cloud region arn
  let (bucket, key) := resultsLocation task.bucket task.directory
  let text ← (cloud.download region bucket key).adapt .storage
  match (Json.parse? text).bind TaskResult.ofJson? with
  | some result => return result
  | none => throw .json

/-! ### Regions -/

/-- The region in which a task of a resource name is asked for. -/
def regionOf (client : CloudClient) (arn : String) : String :=
  (DeviceName.region? arn).getD client.region

/-- The region in which the task of a handle is asked for. -/
def regionOfHandle (client : CloudClient) (handle : TaskHandle) : String :=
  handle.region.getD (client.regionOf handle.id)

/-- The state of a task. -/
def state (cloud : Cloud σ) (client : CloudClient) (arn : String) :
    Call DispatchError σ TaskState :=
  stateIn cloud (client.regionOf arn) arn

/-- The results of a task. -/
def result (cloud : Cloud σ) (client : CloudClient) (arn : String) :
    Call DispatchError σ TaskResult :=
  resultIn cloud (client.regionOf arn) arn

/-! ### The service -/

/-- Submits a request and records the region of the new task. -/
def submit (cloud : Cloud σ) (client : CloudClient) (request : TaskRequest) :
    Call DispatchError σ TaskHandle := do
  let arn ← create cloud client request.device request.source request.shots
  return ⟨arn, some (client.regionOf arn)⟩

/-- The samples of a task. -/
def samples (cloud : Cloud σ) (client : CloudClient) (handle : TaskHandle) :
    Call DispatchError σ Samples := do
  let result ← resultIn cloud (client.regionOfHandle handle) handle.id
  MonadExcept.ofExcept result.samples

/-- A call of the client as a call of a service. -/
def served {α : Type} (call : Call DispatchError σ α) : Call ServiceError σ α :=
  call.adapt DispatchError.toServiceError

/-- The client as a task service. -/
def service (cloud : Cloud σ) (client : CloudClient) : TaskService σ :=
  let submit request := served (client.submit cloud request)
  { name := "braket"
    submit
    submitBatch := TaskService.oneByOne submit
    state := fun handle => served (stateIn cloud (client.regionOfHandle handle) handle.id)
    fetch := fun handle => served (client.samples cloud handle) }

end CloudClient

/-- A backend over the cloud. The environment is read before the configuration is checked. -/
def Backend.connect {R σ : Type} (cloud : Cloud σ) (env : Environment) (config : Config) :
    Except DispatchError (Backend R σ) := do
  let client ← CloudClient.ofEnvironment env
  Backend.create config (client.service cloud)

end CircuitDispatch
