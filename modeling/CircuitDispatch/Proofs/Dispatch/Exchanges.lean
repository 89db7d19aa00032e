import CircuitDispatch.Proofs.Dispatch.Submission
import CircuitDispatch.Proofs.Run.Schedule

/-!
# What a submission asks the service

Here a backend is put over a service that writes down what it is asked and what it answers
(`Backend.over`). On a remote device a planned circuit is one question to the service at most:
`Gateway.SubmitExchange` lists what is asked, what the service tells and what becomes of it, and
`Gateway.exchanges_submit` says that there is nothing else. Circuits that are submitted one by one
make such exchanges in a row, up to the first that fails (`Gateway.exchanges_submitSeries`).

However circuits are submitted, the service is asked for nothing but submissions, and the runs are
those of the tasks that it answers with (`Submitting`, `Backend.exchanges_submitAll`).
-/

namespace CircuitDispatch

variable {R ε σ ξ α β : Type}

/-! ### Calls in a world -/

namespace Call

variable {x : Call ε σ α} {f : α → Call ε σ β} {w w' : σ}

/-- A call is what it does in each world. -/
theorem ext {x y : Call ε σ α} (h : ∀ w, x.run.run w = y.run.run w) : x = y := funext h

/-- A call that succeeds is followed by what depends on it. -/
theorem run_bind_of_ok {a : α} (h : x.run.run w = (.ok a, w')) :
    (x >>= f).run.run w = (f a).run.run w' := by
  rw [ExceptT.run_bind, StateT.run_bind, h]
  rfl

/-- A call that fails is followed by nothing. -/
theorem run_bind_of_error {e : ε} (h : x.run.run w = (.error e, w')) :
    (x >>= f).run.run w = (.error e, w') := by
  rw [ExceptT.run_bind, StateT.run_bind, h]
  rfl

/-- A call of the service as a step of dispatching. -/
theorem run_dispatched {call : Call ServiceError σ α} {told : Except ServiceError α}
    (h : call.run.run w = (told, w')) :
    call.dispatched.run.run w = (told.mapError .service, w') := by
  rw [dispatched, ExceptT.run_adapt, StateT.run_map, h]
  rfl

end Call

/-! ### Backends over a service with a log -/

/-- The executor, which writes nothing down. -/
def LocalExecutor.unlogged (executor : LocalExecutor R σ) : LocalExecutor R (σ × List ξ) where
  name := executor.name
  execute request circuit :=
    ExceptT.mk (CircuitDispatch.unlogged (executor.execute request circuit).run)
  freshId := CircuitDispatch.unlogged executor.freshId

/-- The backend, with its service replaced by one that keeps a log. -/
def Backend.over (b : Backend R σ) (service : TaskService (σ × List ξ)) :
    Backend R (σ × List ξ) where
  config := b.config
  gateway := ⟨service, b.gateway.executor.map LocalExecutor.unlogged⟩
  policy := b.policy

namespace Gateway

variable [Scalar R] {gateway : Gateway R σ} {logging : Gateway R (σ × List Exchange)}
  {device : Device}

/-- What the submission of a planned circuit to a remote device asks, is told and answers. -/
inductive SubmitExchange (device : Device) (plan : Plan R) :
    List Exchange → Except DispatchError (CircuitRun R) → Prop where
  /-- The program has no text. -/
  | unrendered {e : DispatchError} (hrequest : request device plan = .error e) :
    SubmitExchange device plan [] (.error e)
  | refused {r : TaskRequest} {reason : ServiceError} (hrequest : request device plan = .ok r) :
    SubmitExchange device plan [.submit r (.error reason)] (.error (.service reason))
  | accepted {r : TaskRequest} {handle : TaskHandle} (hrequest : request device plan = .ok r) :
    SubmitExchange device plan [.submit r (.ok handle)] (.ok (.remote handle plan.metadata))

/-- **One circuit** on a remote device. -/
theorem exchanges_submit
    (hlogs : ∀ r, logging.service.submit r = logged (.submit r) (gateway.service.submit r))
    (hremote : device.isLocal = false) (circuit : Circuit R) (plan : Plan R) :
    Hands (logging.submit device circuit plan) (gateway.submit device circuit plan)
      (SubmitExchange device plan) := by
  refine Hands.ofExcept_bind (fun r hrequest => ?_) fun e hrequest => .unrendered hrequest
  cases device with
  | onSite name => cases hremote
  | remote arn simulator =>
    simp only [hlogs]
    refine Hands.logged_bind (Exchange.submit r) (fun handle => ?_) fun _ => .refused hrequest
    exact Hands.pure (.accepted hrequest)

/-- **Circuits one by one** on a remote device. -/
theorem exchanges_submitSeries
    (hlogs : ∀ r, logging.service.submit r = logged (.submit r) (gateway.service.submit r))
    (hremote : device.isLocal = false) (items : List (Circuit R × Plan R)) :
    Hands (items.mapM fun (circuit, plan) => logging.submit device circuit plan)
      (items.mapM fun (circuit, plan) => gateway.submit device circuit plan)
      (Series (fun item => SubmitExchange device item.2) items) :=
  Hands.mapM (fun item => exchanges_submit hlogs hremote item.1 item.2) items

end Gateway

/-! ### Several circuits -/

/-- Whether an exchange submits something. -/
def Exchange.isSubmission : Exchange → Bool
  | .submit _ _ => true
  | .submitBatch _ _ => true
  | _ => false

/-- Submissions ask for the state of no task. -/
theorem questions_eq_zero_of_submissions {log : List Exchange}
    (h : ∀ exchange ∈ log, exchange.isSubmission = true) (handle : TaskHandle) :
    questions handle log = 0 := by
  refine List.countP_eq_zero.mpr fun exchange hexchange => ?_
  have hsubmission := h exchange hexchange
  cases exchange with
  | submit | submitBatch => exact Bool.false_ne_true
  | state | fetch => cases hsubmission

/-- Submissions, and the runs that they start if they succeed. -/
structure Submitting (calls : List Exchange)
    (answer : Except DispatchError (List (CircuitRun R))) : Prop where
  submissions : ∀ exchange ∈ calls, exchange.isSubmission = true
  started : ∀ runs, answer = .ok runs →
    ∃ tasks : List (StartedTask R), runs = tasks.map StartedTask.run

namespace Submitting

theorem error {calls : List Exchange} {e : DispatchError}
    (h : ∀ exchange ∈ calls, exchange.isSubmission = true) :
    Submitting calls (.error e : Except DispatchError (List (CircuitRun R))) where
  submissions := h
  started := by
    intro runs hruns
    cases hruns

variable [Scalar R] {device : Device} {items : List (Circuit R × Plan R)} {calls : List Exchange}
  {answer : Except DispatchError (List (CircuitRun R))}

theorem of_series
    (h : Series (fun item => Gateway.SubmitExchange device item.2) items calls answer) :
    Submitting calls answer where
  submissions := by
    refine h.forall_mem_handed fun hstep => ?_
    cases hstep with
    | unrendered => exact List.forall_mem_nil _
    | refused | accepted => exact List.forall_mem_singleton.mpr rfl
  started := by
    rintro runs rfl
    have hall : List.Forall₂ (fun _ run => ∃ task : StartedTask R, run = task.run) items runs := by
      refine h.forall₂_of_ok fun hstep => ?_
      cases hstep with
      | @accepted _ handle => exact ⟨⟨handle, _⟩, rfl⟩
    -- the tasks are put together one by one, as the runs are
    clear h
    induction hall with
    | nil => exact ⟨[], rfl⟩
    | cons hrun _ ih =>
      obtain ⟨task, rfl⟩ := hrun
      obtain ⟨tasks, rfl⟩ := ih
      exact ⟨task :: tasks, rfl⟩

end Submitting

namespace Backend

/-- The backend, with a log of what its service is asked. -/
def recorded (b : Backend R σ) : Backend R (σ × List Exchange) := b.over b.service.recorded

variable [Scalar R] {b : Backend R σ} {device : Device}

theorem exchanges_submitBatch (hremote : device.isLocal = false)
    (items : List (Circuit R × Plan R)) :
    Hands (b.recorded.gateway.submitBatch device items) (b.gateway.submitBatch device items)
      Submitting := by
  -- what fails before the service is called has asked it nothing
  have hnothing : ∀ e : DispatchError,
      Submitting [] (.error e : Except DispatchError (List (CircuitRun R))) :=
    fun e => .error (List.forall_mem_nil _)
  refine Hands.ofExcept_bind (fun _ _ => ?_) fun e _ => hnothing e
  rw [hremote]
  refine Hands.ofExcept_bind (fun rs hrequests => ?_) fun e _ => hnothing e
  refine Hands.logged_bind (Exchange.submitBatch rs) (fun batch => ?_) fun _ =>
    .error (List.forall_mem_singleton.mpr rfl)
  split
  · -- the tasks are dealt out to the plans in order
    refine Hands.pure ⟨List.forall_mem_singleton.mpr rfl, ?_⟩
    intro runs hruns
    cases hruns
    refine ⟨batch.tasks.zipWith (fun handle (plan : Plan R) => ⟨handle, plan.metadata⟩)
      (items.map (·.2)), ?_⟩
    rw [List.map_zipWith]
    rfl
  · exact Hands.throw (.error (List.forall_mem_singleton.mpr rfl))

/-- **Several circuits** on a remote device. -/
theorem exchanges_submitAll (hdevice : b.device = .ok device) (hremote : device.isLocal = false)
    (circuits : List (Circuit R)) :
    Hands (b.recorded.submitAll circuits) (b.submitAll circuits) Submitting := by
  refine Hands.ofExcept_bind (fun device' hdevice' => ?_) fun e _ =>
    .error (List.forall_mem_nil _)
  obtain rfl : device = device' := Except.ok.inj (hdevice.symm.trans hdevice')
  refine Hands.ofExcept_bind (fun items _ => ?_) fun e _ => .error (List.forall_mem_nil _)
  -- the recorded backend has the same configuration
  have hconfig : b.recorded.config = b.config := rfl
  rw [hconfig]
  split
  · exact exchanges_submitBatch hremote items
  · exact (Gateway.exchanges_submitSeries (fun _ => rfl) hremote items).mono fun _ _ =>
      Submitting.of_series

end Backend

end CircuitDispatch
