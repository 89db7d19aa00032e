import CircuitDispatch.Proofs.Run.History
import CircuitDispatch.Run.Snapshot

/-!
# A run of a circuit is resolved once

`CircuitRun.PollStep` lists what one poll of a run can do: what it asks, what it is told, what it
answers and what becomes of the run (`polls_circuit`). Only one of the cases changes the run: the
task is completed and its samples are delivered (`PollStep.unchanged_or_fetched`).

So along every history of polls, against a service that may answer anything, a run goes one
way (`oneWay_history`): from pending to resolved, at most once, and never back. Runs are made
by submission, by execution on site, or from a record (`CircuitRun.Built`); no run that is made
in one of these ways is on site without its results.
-/

namespace CircuitDispatch

variable {R σ : Type}

namespace CircuitRun

/-- What one poll of a run can do. -/
inductive PollStep (run : CircuitRun R) :
    List Exchange → Except DispatchError (Option (Registers R)) → CircuitRun R → Prop where
  /-- The registers are there. -/
  | resolved {results : Registers R} (hresults : run.results = some results) :
    PollStep run [] (.ok (some results)) run
  /-- A run on site has no results, and never will have. -/
  | lost {id : String} (hresults : run.results = none) (htask : run.task = .onSite id) :
    PollStep run [] (.error (.invalidSnapshot s!"local run {id} has no results")) run
  | stateError {handle : TaskHandle} {e : ServiceError} (hresults : run.results = none)
      (htask : run.task = .remote handle) :
    PollStep run [.state handle (.error e)] (.error (.service e)) run
  | failed {handle : TaskHandle} {reason : String} (hresults : run.results = none)
      (htask : run.task = .remote handle) :
    PollStep run [.state handle (.ok (.failed reason))]
      (.error (.remoteTaskFailed handle.id reason)) run
  | cancelled {handle : TaskHandle} (hresults : run.results = none)
      (htask : run.task = .remote handle) :
    PollStep run [.state handle (.ok .cancelled)] (.error (.remoteTaskCancelled handle.id)) run
  | waiting {handle : TaskHandle} {state : TaskState} (hresults : run.results = none)
      (htask : run.task = .remote handle) (hpending : state.isPending = true) :
    PollStep run [.state handle (.ok state)] (.ok none) run
  | fetchError {handle : TaskHandle} {e : ServiceError} (hresults : run.results = none)
      (htask : run.task = .remote handle) :
    PollStep run [.state handle (.ok .completed), .fetch handle (.error e)] (.error (.service e))
      run
  /-- The samples of the completed task are delivered. -/
  | fetched {handle : TaskHandle} {samples : Samples} (hresults : run.results = none)
      (htask : run.task = .remote handle) :
    PollStep run [.state handle (.ok .completed), .fetch handle (.ok samples)]
      (.ok (some (run.metadata.assemble samples))) (run.resolve (run.metadata.assemble samples))

/-- Fetching the samples of a completed task. -/
private theorem records_collect (service : TaskService σ) (run : CircuitRun R)
    {handle : TaskHandle} (hresults : run.results = none) (htask : run.task = .remote handle)
    (w : σ) : ∃ calls answer after w',
      Records (run.collect service.recorded handle) (run.collect service handle) w calls
        (answer, after) w' ∧
      PollStep run (.state handle (.ok .completed) :: calls) answer after := by
  rcases hfetch : (service.fetch handle).run.run w with ⟨answer, w'⟩
  have hcall := Records.logged (Exchange.fetch handle) hfetch
  cases answer with
  | ok samples =>
    exact ⟨_, _, _, _, hcall.bind_pure rfl rfl, PollStep.fetched hresults htask⟩
  | error e =>
    exact ⟨_, _, _, _, hcall.bind_pure rfl rfl, PollStep.fetchError hresults htask⟩

/-- **One poll of a run.** -/
theorem polls_circuit (service : TaskService σ) :
    Polls (fun run : CircuitRun R => run.poll service.recorded) (fun run => run.poll service)
      PollStep := by
  rintro ⟨task, metadata, results⟩ w
  -- the cases are those of the poll itself: the results, the task, the state, the samples
  cases results with
  | some results => exact ⟨_, _, _, _, Records.pure _ w, PollStep.resolved rfl⟩
  | none =>
    cases task with
    | onSite id => exact ⟨_, _, _, _, Records.pure _ w, PollStep.lost rfl rfl⟩
    | remote handle =>
      rcases hstate : (service.state handle).run.run w with ⟨answer, w'⟩
      have hcall := Records.logged (Exchange.state handle) hstate
      cases answer with
      | error e => exact ⟨_, _, _, _, hcall.bind_pure rfl rfl, PollStep.stateError rfl rfl⟩
      | ok state =>
        cases state with
        | completed =>
          -- the only state after which something else is asked
          obtain ⟨calls, answer, after, w'', hcollect, hstep⟩ :=
            records_collect service ⟨.remote handle, metadata, none⟩ rfl rfl w'
          exact ⟨_, _, _, _, hcall.bind hcollect, hstep⟩
        | failed reason =>
          exact ⟨_, _, _, _, hcall.bind_pure rfl rfl, PollStep.failed rfl rfl⟩
        | cancelled =>
          exact ⟨_, _, _, _, hcall.bind_pure rfl rfl, PollStep.cancelled rfl rfl⟩
        | created | queued | running | cancelling =>
          exact ⟨_, _, _, _, hcall.bind_pure rfl rfl, PollStep.waiting rfl rfl rfl⟩

/-! ### What a step does to a run -/

namespace PollStep

variable {run after : CircuitRun R} {calls : List Exchange}
  {answer : Except DispatchError (Option (Registers R))} {results : Registers R}

/-- A resolved run answers with its results, and that is all. -/
theorem of_results (h : PollStep run calls answer after) (hresults : run.results = some results) :
    calls = [] ∧ answer = .ok (some results) ∧ after = run := by
  cases h with
  | resolved h =>
    rw [hresults] at h
    cases h
    exact ⟨rfl, rfl, rfl⟩
  -- in every other case there were no results
  | lost h | stateError h | failed h | cancelled h | waiting h | fetchError h | fetched h =>
    rw [hresults] at h
    cases h

/-- **Only a delivery changes a run.** Either nothing is delivered and the run stays as it was, or
the task is completed, its samples are delivered, and the run is resolved with what they assemble
to. -/
theorem unchanged_or_fetched (h : PollStep run calls answer after) :
    (calls.filterMap Exchange.delivered? = [] ∧ after = run) ∨
    ∃ handle samples, run.task = .remote handle ∧
      calls = [.state handle (.ok .completed), .fetch handle (.ok samples)] ∧
      answer = .ok (some (run.metadata.assemble samples)) ∧
      after = run.resolve (run.metadata.assemble samples) := by
  cases h with
  | resolved | lost | stateError | failed | cancelled | waiting | fetchError =>
    exact Or.inl ⟨rfl, rfl⟩
  | @fetched handle samples _ htask => exact Or.inr ⟨handle, samples, htask, rfl, rfl, rfl⟩

/-- A poll changes neither the task nor the metadata. -/
theorem task_metadata_eq (h : PollStep run calls answer after) :
    after.task = run.task ∧ after.metadata = run.metadata := by
  rcases h.unchanged_or_fetched with ⟨-, rfl⟩ | ⟨_, _, -, -, -, rfl⟩
  · exact ⟨rfl, rfl⟩
  · exact ⟨rfl, rfl⟩

/-- **Results appear** only when the state is completed and the samples are delivered. -/
theorem results_appear (h : PollStep run calls answer after) (hnone : run.results = none)
    (hresults : after.results = some results) :
    ∃ handle samples, run.task = .remote handle ∧
      calls = [.state handle (.ok .completed), .fetch handle (.ok samples)] ∧
      results = run.metadata.assemble samples ∧ answer = .ok (some results) := by
  rcases h.unchanged_or_fetched with ⟨-, rfl⟩ | ⟨handle, samples, htask, hcalls, hanswer, rfl⟩
  · rw [hnone] at hresults
    cases hresults
  · cases hresults
    exact ⟨handle, samples, htask, hcalls, rfl, hanswer⟩

/-- A poll that answers without results leaves the run as it was. -/
theorem after_eq (h : PollStep run calls answer after)
    (hidle : answer = .ok none ∨ ∃ e, answer = .error e) : after = run := by
  rcases h.unchanged_or_fetched with ⟨-, hafter⟩ | ⟨_, _, -, -, hanswer, -⟩
  · exact hafter
  · rw [hanswer] at hidle
    rcases hidle with hidle | ⟨e, hidle⟩
    · cases hidle
    · cases hidle

/-- A poll delivers samples at most once, and leaves the run resolved if it does. -/
theorem delivered (h : PollStep run calls answer after) :
    calls.filterMap Exchange.delivered? = [] ∨
      (calls.filterMap Exchange.delivered?).length = 1 ∧
        ∃ results, after.results = some results := by
  rcases h.unchanged_or_fetched with ⟨hnone, -⟩ | ⟨_, samples, -, rfl, -, rfl⟩
  · exact Or.inl hnone
  · exact Or.inr ⟨rfl, run.metadata.assemble samples, rfl⟩

end PollStep

/-- A run on site has its results. -/
def ResultsOnSite (run : CircuitRun R) : Prop :=
  ∀ id, run.task = .onSite id → run.results ≠ none

/-- A run that has its results if it is on site is never found to contradict itself. -/
theorem PollStep.answer_ne_invalidSnapshot {run after : CircuitRun R} {calls : List Exchange}
    {answer : Except DispatchError (Option (Registers R))} (h : PollStep run calls answer after)
    (hsite : run.ResultsOnSite) (reason : String) : answer ≠ .error (.invalidSnapshot reason) := by
  cases h with
  | @lost id hresults htask => exact absurd hresults (hsite id htask)
  | resolved | stateError | failed | cancelled | waiting | fetchError | fetched =>
    intro hanswer
    cases hanswer

theorem ResultsOnSite.step {run after : CircuitRun R} {calls : List Exchange}
    {answer : Except DispatchError (Option (Registers R))} (h : run.ResultsOnSite)
    (hstep : PollStep run calls answer after) : after.ResultsOnSite := by
  rcases hstep.unchanged_or_fetched with ⟨-, rfl⟩ | ⟨_, _, -, -, -, rfl⟩
  · exact h
  · intro id _ hnone
    cases hnone

/-- The ways in which a run is made. -/
inductive Built : CircuitRun R → Prop where
  | remote (handle : TaskHandle) (metadata : CircuitMetadata R) : Built (remote handle metadata)
  | onSite (id : String) (metadata : CircuitMetadata R) (results : Registers R) :
    Built (onSite id metadata results)
  | restored {record : CircuitRecord R} {run : CircuitRun R} (h : ofRecord record = .ok run) :
    Built run

/-- However a run is made, on site it has its results. -/
theorem Built.resultsOnSite {run : CircuitRun R} (h : run.Built) : run.ResultsOnSite := by
  cases h with
  | remote handle metadata =>
    -- a task at the service is not on site
    intro id htask
    cases htask
  | onSite id metadata results =>
    intro _ _ hnone
    cases hnone
  | @restored record _ h =>
    unfold ofRecord at h
    split at h
    · -- a record on site is refused unless it has results
      split at h
      · cases h
      · next hsome =>
        cases h
        intro _ _ hnone
        change record.results = none at hnone
        rw [hnone] at hsome
        exact hsome rfl
    · cases h
      intro id htask
      cases htask
    · cases h

end CircuitRun

/-! ### What a history does to a run -/

section Traces

variable {run : CircuitRun R} {seen : List (Observation (CircuitRun R) (Registers R))}

/-- Polling a resolved run shows its results again and again. -/
theorem trace_resolved {results : Registers R} (h : Trace CircuitRun.PollStep run seen)
    (hresults : run.results = some results) :
    ∀ o ∈ seen, o = ⟨run, [], .ok (some results), run⟩ := by
  induction h with
  | done =>
    intro o ho
    cases ho
  | poll first others ih =>
    -- the first poll leaves the run as it is, so the others are those of the same run
    obtain ⟨rfl, rfl, rfl⟩ := first.of_results hresults
    intro o ho
    rcases List.mem_cons.mp ho with rfl | ho
    · rfl
    · exact ih hresults o ho

/-- Samples are delivered at most once along a trace. -/
theorem trace_delivered (h : Trace CircuitRun.PollStep run seen) :
    (deliveries seen).length ≤ 1 := by
  induction h with
  | done => exact Nat.zero_le 1
  | @poll _ _ _ _ rest first others ih =>
    rw [deliveries_cons, List.length_append]
    rcases first.delivered with hnone | ⟨hone, results, hresults⟩
    · rw [hnone, List.length_nil, Nat.zero_add]
      exact ih
    · -- from here on the run is resolved, and asks nothing any more
      have hrest : deliveries rest = [] := by
        refine List.flatMap_eq_nil_iff.mpr fun o ho => ?_
        rw [trace_resolved others hresults o ho]
        rfl
      rw [hone, hrest]
      exact Nat.le_refl 1

/-- After a poll that leaves results behind, every later poll shows them. -/
theorem trace_final (h : Trace CircuitRun.PollStep run seen) :
    seen.Pairwise fun earlier later => ∀ results, earlier.after.results = some results →
      later = ⟨earlier.after, [], .ok (some results), earlier.after⟩ := by
  induction h with
  | done => exact List.Pairwise.nil
  | poll first others ih =>
    refine List.pairwise_cons.mpr ⟨fun later hlater results hresults => ?_, ih⟩
    exact trace_resolved others hresults later hlater

end Traces

/-- **One way.** What is seen of a run that is polled again and again. -/
structure OneWay (run : CircuitRun R)
    (seen : List (Observation (CircuitRun R) (Registers R))) : Prop where
  /-- The task and the metadata never change. -/
  fixed : ∀ o ∈ seen, o.after.task = run.task ∧ o.after.metadata = run.metadata
  /-- A run that is resolved from the start shows its results, asks nothing and stays as it is. -/
  resolved : ∀ results, run.results = some results →
    ∀ o ∈ seen, o = ⟨run, [], .ok (some results), run⟩
  /-- Once a poll leaves results behind, every later poll shows them, asks nothing and changes
  nothing. -/
  final : seen.Pairwise fun earlier later => ∀ results, earlier.after.results = some results →
    later = ⟨earlier.after, [], .ok (some results), earlier.after⟩
  /-- Results appear in a poll that finds the task completed and is delivered its samples, and are
  made of these. -/
  appear : ∀ o ∈ seen, ∀ results, o.before.results = none → o.after.results = some results →
    ∃ handle samples, run.task = .remote handle ∧
      o.calls = [.state handle (.ok .completed), .fetch handle (.ok samples)] ∧
      results = run.metadata.assemble samples ∧ o.answer = .ok (some results)
  /-- A poll that still waits or fails leaves the run as it was. -/
  idle : ∀ o ∈ seen, (o.answer = .ok none ∨ ∃ e, o.answer = .error e) → o.after = o.before
  /-- Samples are delivered at most once. -/
  delivered : (deliveries seen).length ≤ 1
  /-- No poll finds a run on site without results. -/
  sound : ∀ o ∈ seen, (∀ id, o.before.task = .onSite id → o.before.results ≠ none) ∧
    ∀ reason, o.answer ≠ .error (.invalidSnapshot reason)

/-- **A run is resolved once**, whatever the service answers and however often it is polled. -/
theorem oneWay_history (service : TaskService σ) {run : CircuitRun R} (hbuilt : run.Built)
    (changes : List (σ → σ)) (w : σ) :
    OneWay run (history (fun run => run.poll service.recorded) changes run w) := by
  have htrace := trace_history (CircuitRun.polls_circuit service) changes run w
  -- what no poll changes: the task, the metadata, and that a run on site has its results
  have hseen := htrace.invariant
    (I := fun before => (before.task = run.task ∧ before.metadata = run.metadata) ∧
      before.ResultsOnSite)
    ⟨⟨rfl, rfl⟩, hbuilt.resultsOnSite⟩ (by
      rintro before calls answer after ⟨⟨htask, hmetadata⟩, hsite⟩ hstep
      obtain ⟨htask', hmetadata'⟩ := hstep.task_metadata_eq
      exact ⟨⟨htask'.trans htask, hmetadata'.trans hmetadata⟩, hsite.step hstep⟩)
  constructor
  case fixed =>
    intro o ho
    obtain ⟨⟨⟨htask, hmetadata⟩, -⟩, hstep⟩ := hseen o ho
    obtain ⟨htask', hmetadata'⟩ := hstep.task_metadata_eq
    exact ⟨htask'.trans htask, hmetadata'.trans hmetadata⟩
  case resolved =>
    intro results hresults
    exact trace_resolved htrace hresults
  case final => exact trace_final htrace
  case appear =>
    intro o ho results hnone hresults
    obtain ⟨⟨⟨htask, hmetadata⟩, -⟩, hstep⟩ := hseen o ho
    obtain ⟨handle, samples, hhandle, hcalls, hassemble, hanswer⟩ :=
      hstep.results_appear hnone hresults
    rw [htask] at hhandle
    rw [hmetadata] at hassemble
    exact ⟨handle, samples, hhandle, hcalls, hassemble, hanswer⟩
  case idle =>
    intro o ho hanswer
    exact (hseen o ho).2.after_eq hanswer
  case delivered => exact trace_delivered htrace
  case sound =>
    intro o ho
    obtain ⟨⟨-, hsite⟩, hstep⟩ := hseen o ho
    exact ⟨hsite, hstep.answer_ne_invalidSnapshot hsite⟩

/-- A service whose tasks are completed after as many questions as its world says. -/
def TaskService.afterQuestions (samples : TaskHandle → Samples) : TaskService Nat where
  name := "after questions"
  submit := TaskService.offline.submit
  submitBatch := TaskService.offline.submitBatch
  state _ := ExceptT.mk fun left => (.ok (if left = 0 then .completed else .running), left - 1)
  fetch handle := return samples handle

/-- A restored run that is resolved by the second of three polls. -/
theorem oneWay_history_restored :
    let run : CircuitRun Nat := ⟨.remote ⟨"task", none⟩, ⟨"ro", none, ∅, ∅⟩, none⟩
    let service := TaskService.afterQuestions fun _ => ⟨[[1]]⟩
    let seen := history (fun run => run.poll service.recorded) [id, id, id] run 1
    CircuitRun.ofRecord run.toRecord = .ok run ∧ OneWay run seen ∧
      seen.map (fun o => o.after.isResolved) = [false, true, true] := by
  intro run service seen
  have hrecord : CircuitRun.ofRecord run.toRecord = .ok run := rfl
  exact ⟨hrecord, oneWay_history service (.restored hrecord) _ _, rfl⟩

end CircuitDispatch
