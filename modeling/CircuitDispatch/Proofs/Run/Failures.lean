import CircuitDispatch.Proofs.Run.Snapshot

/-!
# Failed tasks are not remembered

A task that failed or was cancelled is reported as an error, the error of its state
(`TaskHandle.failure?`). A run keeps the registers of a completed task, but of a failed one it keeps
nothing: the poll that reports the failure leaves the run as it was, so the next poll asks
the service again and answers what it hears then (`CircuitRun.PollStep.failure_iff`).

So a failure is reported as long as the service tells it, and no longer (`failure_asTold`). Against a
service that keeps telling it this is for good. But a service may change its mind, and the client of
the cloud does when a status that it does not know is followed by one that it knows: then the run
fails first and has registers later (`failure_forgotten`).
-/

namespace CircuitDispatch

variable {R ρ α σ : Type}

/-- The error for a task in a state that has ended it without results. -/
def TaskHandle.failure? (handle : TaskHandle) : TaskState → Option DispatchError
  | .failed reason => some (.remoteTaskFailed handle.id reason)
  | .cancelled => some (.remoteTaskCancelled handle.id)
  | _ => none

namespace TaskHandle

variable {handle : TaskHandle} {state : TaskState} {e : DispatchError}

/-- The two failures. -/
theorem of_failure? (h : handle.failure? state = some e) :
    (∃ reason, state = .failed reason ∧ e = .remoteTaskFailed handle.id reason) ∨
      state = .cancelled ∧ e = .remoteTaskCancelled handle.id := by
  cases state with
  | failed reason => exact .inl ⟨reason, rfl, (Option.some.inj h).symm⟩
  | cancelled => exact .inr ⟨rfl, (Option.some.inj h).symm⟩
  | created | queued | running | completed | cancelling => cases h

/-- A task that has failed does not go on. -/
theorem isPending_of_failure? (h : handle.failure? state = some e) : state.isPending = false := by
  rcases of_failure? h with ⟨_, rfl, -⟩ | ⟨rfl, -⟩
  · rfl
  · rfl

end TaskHandle

namespace CircuitRun

variable {run after : CircuitRun R} {calls : List Exchange}
  {answer : Except DispatchError (Option (Registers R))} {handle : TaskHandle} {state : TaskState}
  {e : DispatchError}

/-- **A poll reports a failure exactly if it is told it.** -/
theorem PollStep.failure_iff (h : PollStep run calls answer after)
    (htask : run.task = .remote handle) (hfailure : handle.failure? state = some e) :
    answer = .error e ↔ calls = [.state handle (.ok state)] := by
  have hended : state.isPending = false := handle.isPending_of_failure? hfailure
  cases h with
  | @failed told reason _ htold | @cancelled told _ htold =>
    obtain rfl : handle = told := TaskRef.remote.inj (htask.symm.trans htold)
    rcases handle.of_failure? hfailure with ⟨_, rfl, rfl⟩ | ⟨rfl, rfl⟩
    · simp
    · simp
  | @waiting told state' _ _ hpending =>
    -- a task that goes on has not failed
    have hne : state' ≠ state := by
      rintro rfl
      exact Bool.noConfusion (hpending.symm.trans hended)
    simp [hne]
  | resolved | lost | stateError | fetchError | fetched =>
    rcases handle.of_failure? hfailure with ⟨_, rfl, rfl⟩ | ⟨rfl, rfl⟩
    · simp
    · simp

/-- Only a poll without results fails, and it leaves the run as it was. -/
theorem PollStep.of_error (h : PollStep run calls (.error e) after) :
    run.results = none ∧ after = run := by
  cases h with
  | lost hresults | stateError hresults | failed hresults | cancelled hresults
  | fetchError hresults => exact ⟨hresults, rfl⟩

end CircuitRun

/-! ### Histories -/

/-- If nothing is ever replaced, or replacing keeps what it replaces, replacing does not show. -/
theorem replacingHistory_eq_of_kept {poll : ρ → StateM (σ × List Exchange) (Polled ρ α)}
    {replace : ρ → Except DispatchError ρ} {points : List ((σ → σ) × Bool)} {run : ρ} {w : σ}
    (h : (∃ point ∈ points, point.2 = true) →
      ∀ o ∈ history poll (points.map (·.1)) run w, replace o.before = .ok o.before) :
    replacingHistory poll replace points run w = .ok (history poll (points.map (·.1)) run w) := by
  by_cases hreplaced : ∃ point ∈ points, point.2 = true
  · exact replacingHistory_eq (h hreplaced)
  · clear h
    induction points generalizing run w with
    | nil => rfl
    | cons point points ih =>
      obtain ⟨change, replaced⟩ := point
      have hkept : replaced = false := by
        rw [← Bool.not_eq_true]
        exact fun htrue => hreplaced ⟨_, List.mem_cons_self, htrue⟩
      have hrest : ¬ ∃ point ∈ points, point.2 = true := by
        rintro ⟨point, hpoint, htrue⟩
        exact hreplaced ⟨point, List.mem_cons_of_mem _ hpoint, htrue⟩
      have hrun : replaceIf replaced replace run = .ok run := by rw [hkept]; rfl
      rw [List.map_cons, history_cons, replacingHistory_cons hrun]
      simp only [ih hrest]
      rfl

/-- What is seen of a run whose task is reported as failed: the failure lasts as long as it is told,
and leaves nothing behind. -/
structure FailsAsTold (run : CircuitRun R) (handle : TaskHandle)
    (seen : List (Observation (CircuitRun R) (Registers R))) : Prop where
  /-- A poll reports a failure exactly if the service tells it in this very poll. -/
  told : ∀ o ∈ seen, ∀ state e, handle.failure? state = some e →
    (o.answer = .error e ↔ o.calls = [.state handle (.ok state)])
  /-- After a failure, or any other error, the run is as it was in the beginning. -/
  forgotten : ∀ o ∈ seen, ∀ e, o.answer = .error e → o.before = run ∧ o.after = run

/-- **A failure is reported as long as it is told.** -/
theorem trace_failsAsTold {run : CircuitRun R} {handle : TaskHandle}
    {seen : List (Observation (CircuitRun R) (Registers R))}
    (h : Trace CircuitRun.PollStep run seen) (htask : run.task = .remote handle) :
    FailsAsTold run handle seen := by
  -- a run is as it was, or resolved
  have hseen := h.invariant
    (I := fun before => before.task = .remote handle ∧ (before = run ∨ before.results ≠ none))
    ⟨htask, .inl rfl⟩ (by
      rintro before calls answer after ⟨hbefore, hrun⟩ hstep
      refine ⟨hstep.task_metadata_eq.1.trans hbefore, ?_⟩
      rcases hstep.unchanged_or_fetched with ⟨-, rfl⟩ | ⟨_, _, -, -, -, rfl⟩
      · exact hrun
      · exact .inr (Option.some_ne_none _))
  constructor
  case told =>
    intro o ho state e hfailure
    obtain ⟨⟨hbefore, -⟩, hstep⟩ := hseen o ho
    exact hstep.failure_iff hbefore hfailure
  case forgotten =>
    intro o ho e hanswer
    obtain ⟨⟨-, hrun⟩, hstep⟩ := hseen o ho
    rw [hanswer] at hstep
    obtain ⟨hnone, hafter⟩ := hstep.of_error
    have hbefore : o.before = run := hrun.resolve_right fun hresults => hresults hnone
    exact ⟨hbefore, hafter.trans hbefore⟩

/-- **A failure lasts as long as it is told**, also if the run is replaced by what is read back from
its snapshot. -/
theorem failure_asTold (service : TaskService σ) {run : CircuitRun Float} {handle : TaskHandle}
    (htask : run.task = .remote handle) (points : List ((σ → σ) × Bool))
    (hstorable : (∃ point ∈ points, point.2 = true) → run.Storable) (w : σ) :
    let poll := fun run : CircuitRun Float => run.poll service.recorded
    let seen := history poll (points.map (·.1)) run w
    replacingHistory poll (fun run => CircuitRun.load run.save) points run w = .ok seen ∧
      FailsAsTold run handle seen := by
  intro poll seen
  have htrace := trace_history (CircuitRun.polls_circuit service) (points.map (·.1)) run w
  refine ⟨replacingHistory_eq_of_kept fun hreplaced o ho => ?_, trace_failsAsTold htrace htask⟩
  have hseen := htrace.invariant (hstorable hreplaced) CircuitRun.Storable.step
  exact CircuitRun.load_save (hseen o ho).1

/-- A service that tells one state after the other, and in the end that the task is completed. -/
def TaskService.telling (samples : TaskHandle → Samples) : TaskService (List TaskState) where
  name := "telling"
  submit := TaskService.offline.submit
  submitBatch := TaskService.offline.submitBatch
  state _ := ExceptT.mk fun states => (.ok (states.headD .completed), states.tail)
  fetch handle := return samples handle

/-- The run of a task without static bits and without outputs. -/
def CircuitRun.plain : CircuitRun Float := .remote ⟨"task", none⟩ ⟨"ro", none, ∅, ∅⟩

/-- The task is told to have failed twice, with a snapshot in between, and then to be completed. -/
theorem failure_asTold_twice :
    let poll := fun run : CircuitRun Float =>
      run.poll (TaskService.telling fun _ => ⟨[[1]]⟩).recorded
    let points := [(id, false), (id, true), (id, false)]
    let w := [TaskState.failed "calibration", .failed "calibration"]
    let seen := history poll (points.map (·.1)) CircuitRun.plain w
    replacingHistory poll (fun run => CircuitRun.load run.save) points CircuitRun.plain w = .ok seen ∧
      FailsAsTold CircuitRun.plain ⟨"task", none⟩ seen ∧
      seen.map (fun o => o.after.isResolved) = [false, false, true] := by
  intro poll points w seen
  have hvacant : ∀ {Value : Type}, RegisterMap.Vacant (∅ : RegisterMap Value) := by
    intro Value e he
    cases he
  have hmetadata : CircuitRun.plain.metadata.Storable := by
    refine ⟨hvacant, hvacant, ?_⟩
    intro bits hbits
    cases hbits
  have hstorable : CircuitRun.plain.Storable := by
    refine ⟨hmetadata, ?_, ?_⟩
    · intro r hr
      cases hr
    · intro id htask
      cases htask
  have htask : CircuitRun.plain.task = .remote ⟨"task", none⟩ := rfl
  obtain ⟨hreplaced, htold⟩ :=
    failure_asTold (TaskService.telling fun _ => ⟨[[1]]⟩) htask points (fun _ => hstorable) w
  exact ⟨hreplaced, htold, rfl⟩

/-- **A failure is forgotten.** A run whose task was told to have failed has registers in the end. -/
theorem failure_forgotten :
    ¬ ∀ (service : TaskService (List TaskState)) (run : CircuitRun Float) (handle : TaskHandle)
      (points : List ((List TaskState → List TaskState) × Bool)) (w : List TaskState)
      (seen : List (Observation (CircuitRun Float) (Registers Float))),
      run.task = .remote handle →
      replacingHistory (fun run : CircuitRun Float => run.poll service.recorded)
        (fun run => CircuitRun.load run.save) points run w = .ok seen →
      seen.Pairwise fun earlier later => ∀ state e, handle.failure? state = some e →
        earlier.answer = .error e → later.answer = .error e := by
  intro h
  have hseen := h (TaskService.telling fun _ => ⟨[[1]]⟩) CircuitRun.plain ⟨"task", none⟩
    [(id, false), (id, false)] [.failed "calibration"] _ rfl rfl
  -- the second poll answers with registers
  obtain ⟨hfirst, -⟩ := List.pairwise_cons.mp hseen
  have hsecond := hfirst _ List.mem_cons_self (.failed "calibration") _ rfl rfl
  cases hsecond

end CircuitDispatch
