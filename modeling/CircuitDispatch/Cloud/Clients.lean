import CircuitDispatch.Cloud.Client
import CircuitDispatch.SortedMap

/-!
# Clients of regions

Requests are sent by clients that are bound to a region. The clients of the home
region are there from the start; those of another region are made when a task
there is first asked for, and are kept from then on.
-/

namespace CircuitDispatch

/-- The clients that send requests to one region. -/
structure RegionClients where
  region : String
  deriving DecidableEq, Repr

/-- The clients that are there. -/
structure ClientPool where
  home : RegionClients
  /-- The clients of other regions that were needed before, under these regions. -/
  foreign : SortedMap String RegionClients
  deriving DecidableEq

namespace ClientPool

/-- The clients that are there from the start. -/
def atHome (region : String) : ClientPool := ⟨⟨region⟩, ∅⟩

/-- A region that is known and not the home region. -/
def foreignRegion? (home : String) (region : Option String) : Option String :=
  region.filter fun region => region ≠ home

/-- Keeps the clients of a region, unless there are some by now, which are used instead. -/
def keep (pool : ClientPool) (region : String) (clients : RegionClients) :
    RegionClients × ClientPool :=
  match pool.foreign.get? region with
  | some kept => (kept, pool)
  | none => (clients, { pool with foreign := pool.foreign.insert region clients })

/-- The clients of a region, which are those at home if it is not known. -/
def clientsFor (pool : ClientPool) (home : String) (region : Option String) :
    RegionClients × ClientPool :=
  match foreignRegion? home region with
  | none => (pool.home, pool)
  | some region =>
    match pool.foreign.get? region with
    | some clients => (clients, pool)
    | none => pool.keep region ⟨region⟩

end ClientPool

namespace CloudClient

variable {σ α : Type}

/-- The region of a handle's task, if it is known: the one that the handle records, or else the one
that the resource name tells. -/
def taskRegion? (handle : TaskHandle) : Option String :=
  handle.region <|> DeviceName.region? handle.id

/-- A call with the clients of a region. -/
def withClients (client : CloudClient) (region : Option String)
    (call : RegionClients → Call DispatchError σ α) : Call DispatchError (σ × ClientPool) α :=
  ExceptT.mk fun world =>
    let (clients, pool) := world.2.clientsFor client.region region
    let (answer, after) := (call clients).run.run world.1
    (answer, after, pool)

/-- The client as a task service that keeps the clients of regions. -/
def pooled (cloud : Cloud σ) (client : CloudClient) : TaskService (σ × ClientPool) :=
  let submit request := served <| client.withClients none fun home => do
    let arn ← create cloud { client with region := home.region } request.device request.source
      request.shots
    return ⟨arn, some (client.regionOf arn)⟩
  { name := "braket"
    submit
    submitBatch := TaskService.oneByOne submit
    state := fun handle => served <| client.withClients (taskRegion? handle) fun clients =>
      stateIn cloud clients.region handle.id
    fetch := fun handle => served <| client.withClients (taskRegion? handle) fun clients => do
      let result ← resultIn cloud clients.region handle.id
      MonadExcept.ofExcept result.samples }

end CloudClient

end CircuitDispatch
