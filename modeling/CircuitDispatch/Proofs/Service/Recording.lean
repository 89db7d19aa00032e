import CircuitDispatch.Service.Basic

/-!
# Recording a service

`TaskService.recorded` is a service that does what another does and writes down every
exchange. Code that is handed the recording service therefore runs as before, and what it
asked can be read off the log: `Records` says so of one computation from one world, and is kept
by returning (`Records.pure`) and by sequencing (`Records.bind`). What a log consists of is left
open, and a call may also be left out of it (`unlogged`).
-/

namespace CircuitDispatch

variable {σ ξ α β : Type}

/-- One call of a task service, with its answer. -/
inductive Exchange where
  | submit (request : TaskRequest) (answer : Except ServiceError TaskHandle)
  | submitBatch (requests : List TaskRequest) (answer : Except ServiceError BatchHandle)
  | state (handle : TaskHandle) (answer : Except ServiceError TaskState)
  | fetch (handle : TaskHandle) (answer : Except ServiceError Samples)

/-- The task whose samples an exchange delivers. -/
def Exchange.delivered? : Exchange → Option TaskHandle
  | .fetch handle (.ok _) => some handle
  | _ => none

/-- A call that writes down its exchange. -/
def logged (exchange : Except ServiceError α → ξ) (call : Call ServiceError σ α) :
    Call ServiceError (σ × List ξ) α :=
  ExceptT.mk fun world =>
    let (answer, after) := call.run.run world.1
    (answer, after, world.2 ++ [exchange answer])

/-- A computation that writes nothing down. -/
def unlogged (x : StateM σ α) : StateM (σ × List ξ) α := fun world =>
  let (a, after) := x.run world.1
  (a, after, world.2)

theorem unlogged_bind (x : StateM σ α) (f : α → StateM σ β) :
    (unlogged (x >>= f) : StateM (σ × List ξ) β) = unlogged x >>= fun a => unlogged (f a) := rfl

namespace TaskService

/-- The same service, with a log of the exchanges. -/
def recorded (service : TaskService σ) : TaskService (σ × List Exchange) where
  name := service.name
  submit request := logged (.submit request) (service.submit request)
  submitBatch requests := logged (.submitBatch requests) (service.submitBatch requests)
  state handle := logged (.state handle) (service.state handle)
  fetch handle := logged (.fetch handle) (service.fetch handle)

end TaskService

/-- From the world `w` a computation comes to `a` and `after`, and so does the same computation with
a recording service, which adds the exchanges `calls` to any log. -/
structure Records (recording : StateM (σ × List ξ) α) (plain : StateM σ α) (w : σ)
    (calls : List ξ) (a : α) (after : σ) : Prop where
  plain_eq : plain.run w = (a, after)
  recording_eq : ∀ log, recording.run (w, log) = (a, after, log ++ calls)

namespace Records

theorem pure (a : α) (w : σ) :
    Records (Pure.pure a : StateM (σ × List ξ) α) (Pure.pure a) w [] a w where
  plain_eq := rfl
  recording_eq log := by
    rw [List.append_nil]
    rfl

/-- **Sequencing** puts the exchanges of both parts in a row. -/
theorem bind {recording : StateM (σ × List ξ) α} {plain : StateM σ α}
    {f : α → StateM (σ × List ξ) β} {g : α → StateM σ β} {w between after : σ}
    {calls calls' : List ξ} {a : α} {b : β} (h : Records recording plain w calls a between)
    (hf : Records (f a) (g a) between calls' b after) :
    Records (recording >>= f) (plain >>= g) w (calls ++ calls') b after where
  plain_eq := by
    have hrun : (plain >>= g).run w = (g (plain.run w).1).run (plain.run w).2 := rfl
    rw [hrun, h.plain_eq]
    exact hf.plain_eq
  recording_eq log := by
    have hrun : (recording >>= f).run (w, log)
        = (f (recording.run (w, log)).1).run (recording.run (w, log)).2 := rfl
    -- the second part starts from the log that the first one leaves
    rw [hrun, h.recording_eq log, ← List.append_assoc]
    exact hf.recording_eq (log ++ calls)

/-- A part that is followed by returning a value asks nothing more. -/
theorem bind_pure {recording : StateM (σ × List ξ) α} {plain : StateM σ α}
    {f : α → StateM (σ × List ξ) β} {g : α → StateM σ β} {w after : σ}
    {calls : List ξ} {a : α} {b : β} (h : Records recording plain w calls a after)
    (hf : f a = Pure.pure b) (hg : g a = Pure.pure b) :
    Records (recording >>= f) (plain >>= g) w calls b after := by
  have hrest : Records (f a) (g a) after [] b after := by
    rw [hf, hg]
    exact Records.pure b after
  have hall := h.bind hrest
  rwa [List.append_nil] at hall

/-- A recorded call writes down its own exchange. -/
theorem logged (exchange : Except ServiceError α → ξ) {call : Call ServiceError σ α}
    {w after : σ} {answer : Except ServiceError α} (h : call.run.run w = (answer, after)) :
    Records (logged exchange call).run call.run w [exchange answer] answer after where
  plain_eq := h
  recording_eq log := by
    have hrun : (CircuitDispatch.logged exchange call).run.run (w, log)
        = ((call.run.run w).1, (call.run.run w).2, log ++ [exchange (call.run.run w).1]) := rfl
    rw [hrun, h]

/-- A computation that writes nothing down adds nothing to the log. -/
theorem unlogged {x : StateM σ α} {w after : σ} {a : α} (h : x.run w = (a, after)) :
    Records (unlogged x : StateM (σ × List ξ) α) x w [] a after where
  plain_eq := h
  recording_eq log := by
    have hrun : (CircuitDispatch.unlogged x : StateM (σ × List ξ) α).run (w, log)
        = ((x.run w).1, (x.run w).2, log) := rfl
    rw [hrun, h, List.append_nil]

end Records

end CircuitDispatch
