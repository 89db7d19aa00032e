import Mathlib.Data.List.Perm.Subperm
import CircuitDispatch.Proofs.Registers
import CircuitDispatch.Proofs.Run.CircuitPolling

/-!
# The order of completion does not show

A program is polled run by run (`ProgramRun.PollStep`). Here the service is steady: a task is
under way or completed, and has samples that never change (`Exchange.isSteady`). Nothing is said
about when a task completes, so all orders of completion are covered.

Against a steady service every run has registers from the start, whether it is resolved or not
(`CircuitRun.registers`), and `CircuitRun.Settles` is what a poll of some runs does: the registers
stay the same, the tasks whose samples are delivered are those that are pending no more, and the
runs are all resolved unless some state was not completed. It holds of a single run, and of two
lists of runs in a row if it holds of both, so it holds of every poll of a program
(`RunsStep.settles`). The main statement about histories of a program is
`orderFree_history`.
-/

namespace CircuitDispatch

variable {R M σ : Type} {samples : TaskHandle → Samples}

/-! ### Steady services -/

namespace Exchange

/-- Whether a service answers as a steady one: states are under way or completed, and the samples of
a task are always the same. -/
def isSteady (samples : TaskHandle → Samples) : Exchange → Bool
  | .state _ (.ok s) => s.isSuccess || s.isPending
  | .state _ (.error _) => false
  | .fetch handle (.ok delivered) => delivered = samples handle
  | .fetch _ (.error _) => false
  | _ => true

/-- Whether a service says that a task is not completed. -/
def isUnfinished : Exchange → Bool
  | .state _ (.ok s) => !s.isSuccess
  | _ => false

end Exchange

namespace CircuitRun

/-- The registers that a run has or will have. -/
def registers (samples : TaskHandle → Samples) (run : CircuitRun R) : Registers R :=
  match run.results, run.task with
  | some results, _ => results
  | none, .remote handle => run.metadata.assemble (samples handle)
  | none, .onSite _ => ∅

/-- The task whose samples a run still waits for. -/
def pendingTask? (run : CircuitRun R) : Option TaskHandle :=
  match run.results, run.task with
  | none, .remote handle => some handle
  | _, _ => none

/-! ### What a poll of runs does -/

/-- What the poll of some runs does to them against a steady service. -/
structure Settles (samples : TaskHandle → Samples) (before : List (CircuitRun R))
    (calls : List Exchange) (after : List (CircuitRun R)) : Prop where
  /-- The registers that the runs have or will have stay the same. -/
  registers_eq : after.map (registers samples) = before.map (registers samples)
  /-- A run on site still has its results. -/
  resultsOnSite : ∀ run ∈ after, run.ResultsOnSite
  /-- All are resolved, unless some task was not completed. -/
  resolved_iff : (∀ run ∈ after, run.isResolved = true) ↔ ∀ e ∈ calls, e.isUnfinished = false
  /-- Samples are delivered for the tasks that are pending no more. -/
  delivered : (calls.filterMap Exchange.delivered? ++ after.filterMap pendingTask?).Perm
    (before.filterMap pendingTask?)
  /-- No run loses its results. -/
  count_le : before.countP isResolved ≤ after.countP isResolved

namespace Settles

theorem nil : Settles samples ([] : List (CircuitRun R)) [] [] where
  registers_eq := rfl
  resultsOnSite := by
    intro run hrun
    cases hrun
  resolved_iff := by simp
  delivered := List.Perm.refl []
  count_le := Nat.le_refl 0

/-- The middle two of four lists change places. -/
private theorem perm_append_swap {α : Type} (a b c d : List α) :
    ((a ++ b) ++ (c ++ d)).Perm ((a ++ c) ++ (b ++ d)) := by
  rw [List.append_assoc, List.append_assoc, ← List.append_assoc b, ← List.append_assoc c]
  exact (List.perm_append_comm.append_right d).append_left a

/-- **Runs in a row** settle if the first ones do and the others do. -/
theorem append {before before' after after' : List (CircuitRun R)} {calls calls' : List Exchange}
    (h : Settles samples before calls after) (h' : Settles samples before' calls' after') :
    Settles samples (before ++ before') (calls ++ calls') (after ++ after') where
  registers_eq := by rw [List.map_append, List.map_append, h.registers_eq, h'.registers_eq]
  resultsOnSite := by
    intro run hrun
    rcases List.mem_append.mp hrun with hrun | hrun
    · exact h.resultsOnSite run hrun
    · exact h'.resultsOnSite run hrun
  resolved_iff := by
    simp only [List.mem_append, or_imp, forall_and]
    rw [h.resolved_iff, h'.resolved_iff]
  delivered := by
    simp only [List.filterMap_append]
    exact (perm_append_swap _ _ _ _).trans (h.delivered.append h'.delivered)
  count_le := by
    rw [List.countP_append, List.countP_append]
    exact Nat.add_le_add h.count_le h'.count_le

end Settles

/-- **One run.** Against a steady service a poll does not fail, and the run settles. -/
theorem PollStep.settles {run after : CircuitRun R} {calls : List Exchange}
    {answer : Except DispatchError (Option (Registers R))} (h : PollStep run calls answer after)
    (hsite : run.ResultsOnSite) (hsteady : ∀ e ∈ calls, e.isSteady samples = true) :
    (∃ found, answer = .ok found) ∧ Settles samples [run] calls [after] := by
  have hsite' : ∀ r ∈ [after], r.ResultsOnSite := by
    intro r hr
    rw [List.mem_singleton.mp hr]
    exact hsite.step h
  cases h with
  | resolved hresults =>
    refine ⟨⟨_, rfl⟩, rfl, hsite', ?_, List.Perm.refl _, Nat.le_refl _⟩
    simp [isResolved, hresults]
  | lost hresults htask => exact absurd hresults (hsite _ htask)
  | stateError | fetchError => simp [Exchange.isSteady] at hsteady
  | failed | cancelled =>
    simp [Exchange.isSteady, TaskState.isSuccess, TaskState.isPending] at hsteady
  | @waiting handle state hresults htask hpending =>
    -- nothing changes, and the state is one that is not completed
    refine ⟨⟨_, rfl⟩, rfl, hsite', ?_, List.Perm.refl _, Nat.le_refl _⟩
    have hsuccess : state.isSuccess = false := by
      cases state <;> first | rfl | cases hpending
    simp [isResolved, hresults, Exchange.isUnfinished, hsuccess]
  | @fetched handle delivered hresults htask =>
    have hdelivered : delivered = samples handle :=
      of_decide_eq_true (hsteady (.fetch handle (.ok delivered)) (by simp))
    subst hdelivered
    -- the run turns from pending to resolved, with the registers that it was to have
    have hpending : run.pendingTask? = some handle := by
      simp only [pendingTask?, hresults, htask]
    have hregisters : run.registers samples = run.metadata.assemble (samples handle) := by
      simp only [registers, hresults, htask]
    refine ⟨⟨_, rfl⟩, ?_, hsite', ?_, ?_, ?_⟩
    · rw [List.map_singleton, List.map_singleton, hregisters]
      rfl
    · simp [isResolved, resolve, Exchange.isUnfinished, TaskState.isSuccess]
    · rw [List.filterMap_cons_some hpending]
      exact List.Perm.refl [handle]
    · simp [isResolved, resolve, hresults]

end CircuitRun

namespace ProgramRun

/-! ### What a poll of a program does -/

/-- What polling runs in order can do: every run is polled, up to the first that fails. -/
inductive RunsStep : List (CircuitRun R) → List Exchange → Except DispatchError Unit →
    List (CircuitRun R) → Prop where
  | done : RunsStep [] [] (.ok ()) []
  | next {run after : CircuitRun R} {rest rest' : List (CircuitRun R)}
      {calls calls' : List Exchange} {found : Option (Registers R)}
      {answer : Except DispatchError Unit} (first : run.PollStep calls (.ok found) after)
      (others : RunsStep rest calls' answer rest') :
    RunsStep (run :: rest) (calls ++ calls') answer (after :: rest')
  | stop {run after : CircuitRun R} {rest : List (CircuitRun R)} {calls : List Exchange}
      {e : DispatchError} (first : run.PollStep calls (.error e) after) :
    RunsStep (run :: rest) calls (.error e) (after :: rest)

/-- What one poll of a program can do. -/
inductive PollStep (program : ProgramRun M R) :
    List Exchange → Except DispatchError (Option (Registers R)) → ProgramRun M R → Prop where
  | polled {calls : List Exchange} {after : ProgramRun M R}
      (hruns : RunsStep program.runs calls (.ok ()) after.runs)
      (hmeasurement : after.measurement = program.measurement) :
    PollStep program calls
      (.ok (if after.isComplete = true then some after.mergedRegisters else none)) after
  | stopped {calls : List Exchange} {after : ProgramRun M R} {e : DispatchError}
      (hruns : RunsStep program.runs calls (.error e) after.runs)
      (hmeasurement : after.measurement = program.measurement) :
    PollStep program calls (.error e) after

/-- **Polling runs in order.** -/
theorem records_pollRuns (service : TaskService σ) (runs : List (CircuitRun R)) (w : σ) :
    ∃ calls answer after w',
      Records (pollRuns service.recorded runs) (pollRuns service runs) w calls (answer, after) w' ∧
      RunsStep runs calls answer after := by
  -- the world changes from run to run, so the induction is for every world
  induction runs generalizing w with
  | nil => exact ⟨[], _, _, w, Records.pure _ w, RunsStep.done⟩
  | cons run rest ih =>
    obtain ⟨calls, answer, after, w', hrecords, hstep⟩ := CircuitRun.polls_circuit service run w
    cases answer with
    | error e =>
      exact ⟨calls, .error e, after :: rest, w', hrecords.bind_pure rfl rfl, RunsStep.stop hstep⟩
    | ok found =>
      obtain ⟨calls', answer', rest', w'', hrest, hsteps⟩ := ih w'
      exact ⟨calls ++ calls', answer', after :: rest', w'',
        hrecords.bind (hrest.bind_pure rfl rfl), RunsStep.next hstep hsteps⟩

/-- **One poll of a program.** -/
theorem polls_program (service : TaskService σ) :
    Polls (fun program : ProgramRun M R => program.pollRegisters service.recorded)
      (fun program => program.pollRegisters service) PollStep := by
  intro program w
  obtain ⟨calls, answer, after, w', hrecords, hsteps⟩ := records_pollRuns service program.runs w
  cases answer with
  | ok =>
    exact ⟨calls, _, { program with runs := after }, w', hrecords.bind_pure rfl rfl,
      PollStep.polled hsteps rfl⟩
  | error e =>
    exact ⟨calls, .error e, { program with runs := after }, w', hrecords.bind_pure rfl rfl,
      PollStep.stopped hsteps rfl⟩

/-! ### Steady histories -/

/-- **Runs in order** do not fail against a steady service, and settle. -/
theorem RunsStep.settles {runs after : List (CircuitRun R)} {calls : List Exchange}
    {answer : Except DispatchError Unit} (h : RunsStep runs calls answer after)
    (hsite : ∀ run ∈ runs, run.ResultsOnSite)
    (hsteady : ∀ e ∈ calls, e.isSteady samples = true) :
    answer = .ok () ∧ CircuitRun.Settles samples runs calls after := by
  induction h with
  | done => exact ⟨rfl, CircuitRun.Settles.nil⟩
  | next first others ih =>
    -- the calls are those of the first run and then those of the others
    obtain ⟨-, hfirst⟩ := first.settles (hsite _ List.mem_cons_self)
      fun e he => hsteady e (List.mem_append_left _ he)
    obtain ⟨hanswer, hothers⟩ := ih (fun run hrun => hsite run (List.mem_cons_of_mem _ hrun))
      fun e he => hsteady e (List.mem_append_right _ he)
    exact ⟨hanswer, hfirst.append hothers⟩
  | stop first =>
    -- a steady service makes no run fail
    obtain ⟨⟨found, hfound⟩, -⟩ := first.settles (hsite _ List.mem_cons_self) hsteady
    cases hfound

/-- A poll in which the runs of a program settle and that answers with what they have. -/
def SettledStep (samples : TaskHandle → Samples) (program : ProgramRun M R)
    (calls : List Exchange) (answer : Except DispatchError (Option (Registers R)))
    (after : ProgramRun M R) : Prop :=
  CircuitRun.Settles samples program.runs calls after.runs ∧
    answer = .ok (if after.isComplete = true then some after.mergedRegisters else none)

/-- The tasks whose samples a program still waits for, each as often as runs wait for it. -/
def pendingTasks (program : ProgramRun M R) : List TaskHandle :=
  program.runs.filterMap CircuitRun.pendingTask?

theorem isComplete_iff {program : ProgramRun M R} :
    program.isComplete = true ↔ ∀ run ∈ program.runs, run.isResolved = true :=
  List.all_eq_true

/-- The registers of a complete program are those that its runs have or will have. -/
theorem mergedRegisters_eq {program : ProgramRun M R} (h : program.isComplete = true)
    (samples : TaskHandle → Samples) :
    program.mergedRegisters = .mergeAll (program.runs.map (CircuitRun.registers samples)) := by
  have hall := isComplete_iff.mp h
  unfold mergedRegisters
  refine congrArg Registers.mergeAll ?_
  -- no run is filtered out
  rw [← List.filterMap_eq_map]
  refine List.filterMap_congr fun run hrun => ?_
  obtain ⟨results, hresults⟩ := Option.isSome_iff_exists.mp (hall run hrun)
  rw [Function.comp_apply, CircuitRun.registers, hresults]

/-- A complete program waits for nothing. -/
theorem pendingTasks_eq_nil {program : ProgramRun M R} (h : program.isComplete = true) :
    program.pendingTasks = [] := by
  refine List.filterMap_eq_nil_iff.mpr fun run hrun => ?_
  obtain ⟨results, hresults⟩ := Option.isSome_iff_exists.mp (isComplete_iff.mp h run hrun)
  rw [CircuitRun.pendingTask?, hresults]

namespace SettledStep

variable {program after : ProgramRun M R} {calls : List Exchange}
  {answer : Except DispatchError (Option (Registers R))}

/-- The program is complete after a poll, unless some task was not completed. -/
theorem isComplete_iff (h : SettledStep samples program calls answer after) :
    after.isComplete = true ↔ ∀ e ∈ calls, e.isUnfinished = false :=
  ProgramRun.isComplete_iff.trans h.1.resolved_iff

/-- A poll waits exactly if it leaves the program incomplete. -/
theorem waits_iff (h : SettledStep samples program calls answer after) :
    answer = .ok none ↔ ¬ after.isComplete = true := by
  rw [h.2]
  by_cases hcomplete : after.isComplete = true
  · rw [if_pos hcomplete]
    simp [hcomplete]
  · rw [if_neg hcomplete]
    simp [hcomplete]

/-- A poll that does not wait answers with the registers that the runs had from the start. -/
theorem answer_eq (h : SettledStep samples program calls answer after)
    (hanswer : answer ≠ .ok none) :
    after.isComplete = true ∧
      answer = .ok (some (.mergeAll (program.runs.map (CircuitRun.registers samples)))) := by
  have hcomplete : after.isComplete = true := by
    by_contra hincomplete
    exact hanswer (h.waits_iff.mpr hincomplete)
  refine ⟨hcomplete, ?_⟩
  rw [h.2, if_pos hcomplete, mergedRegisters_eq hcomplete samples, h.1.registers_eq]

end SettledStep

section Traces

variable {program : ProgramRun M R} {seen : List (Observation (ProgramRun M R) (Registers R))}

/-- Against a steady service every poll settles the runs of the program. -/
theorem trace_settled (h : Trace PollStep program seen)
    (hsite : ∀ run ∈ program.runs, run.ResultsOnSite)
    (hsteady : ∀ o ∈ seen, ∀ e ∈ o.calls, e.isSteady samples = true) :
    Trace (SettledStep samples) program seen := by
  induction h with
  | done => exact Trace.done _
  | poll first others ih =>
    have hfirst := hsteady _ List.mem_cons_self
    have hothers := fun o ho => hsteady o (List.mem_cons_of_mem _ ho)
    cases first with
    | polled hruns =>
      obtain ⟨-, hsettles⟩ := hruns.settles hsite hfirst
      exact Trace.poll ⟨hsettles, rfl⟩ (ih hsettles.resultsOnSite hothers)
    | stopped hruns =>
      obtain ⟨hanswer, -⟩ := hruns.settles hsite hfirst
      cases hanswer

/-- No task has its samples delivered more often than runs wait for it. -/
theorem trace_deliveries_subperm (h : Trace (SettledStep samples) program seen) :
    (deliveries seen).Subperm program.pendingTasks := by
  induction h with
  | done => exact List.nil_subperm
  | poll first others ih =>
    rw [deliveries_cons]
    -- what the other polls deliver is pending after the first one
    refine List.Subperm.trans ?_ first.1.delivered.subperm
    exact (List.subperm_append_left _).mpr ih

/-- Once the program is complete, samples were delivered exactly once for every run that waited. -/
theorem trace_deliveries_perm (h : Trace (SettledStep samples) program seen) :
    ∀ o ∈ seen, o.after.isComplete = true → (deliveries seen).Perm program.pendingTasks := by
  induction h with
  | done =>
    intro o ho
    cases ho
  | @poll program after calls answer rest first others ih =>
    intro o ho hcomplete
    rw [deliveries_cons]
    have hdelivered : (calls.filterMap Exchange.delivered? ++ after.pendingTasks).Perm
        program.pendingTasks := first.1.delivered
    rcases List.mem_cons.mp ho with rfl | ho
    · -- nothing is pending any more, so nothing more is delivered
      have hnone : after.pendingTasks = [] := pendingTasks_eq_nil hcomplete
      have hrest := trace_deliveries_subperm others
      rw [hnone] at hdelivered hrest
      rw [List.subperm_nil.mp hrest]
      exact hdelivered
    · exact ((ih o ho hcomplete).append_left _).trans hdelivered

/-- The number of resolved runs never decreases. -/
theorem trace_resolvedCount (h : Trace (SettledStep samples) program seen) :
    (program.resolvedCount :: seen.map fun o => o.after.resolvedCount).Pairwise (· ≤ ·) := by
  induction h with
  | done => exact List.pairwise_singleton _ _
  | poll first others ih =>
    refine List.pairwise_cons.mpr ⟨fun count hcount => ?_, ih⟩
    have hle := first.1.count_le
    rcases List.mem_cons.mp hcount with rfl | hcount
    · exact hle
    · exact Nat.le_trans hle ((List.pairwise_cons.mp ih).1 count hcount)

end Traces

end ProgramRun

/-- **Order free.** What is seen of a program that is polled again and again against a steady
service. -/
structure OrderFree (samples : TaskHandle → Samples) (program : ProgramRun M R)
    (seen : List (Observation (ProgramRun M R) (Registers R))) : Prop where
  /-- A poll waits exactly if it was told that some task is not completed. -/
  waiting : ∀ o ∈ seen, o.answer = .ok none ↔ ∃ e ∈ o.calls, e.isUnfinished = true
  /-- Every other poll answers, and under each name shows what the last run with this name has. -/
  merged : ∀ o ∈ seen, o.answer ≠ .ok none → ∃ found, o.answer = .ok (some found) ∧
    (∀ k, found.bit.get? k
      = program.runs.reverse.findSome? fun run => (run.registers samples).bit.get? k) ∧
    (∀ k, found.float.get? k
      = program.runs.reverse.findSome? fun run => (run.registers samples).float.get? k) ∧
    ∀ k, found.complex.get? k
      = program.runs.reverse.findSome? fun run => (run.registers samples).complex.get? k
  /-- Samples are delivered at most once for every run that waits for a task. -/
  atMostOnce : (deliveries seen).Subperm program.pendingTasks
  /-- If some poll does not wait, samples are delivered exactly once for every such run. -/
  once : ∀ o ∈ seen, o.answer ≠ .ok none → (deliveries seen).Perm program.pendingTasks
  /-- The number of resolved runs never decreases. -/
  counts : (program.resolvedCount :: seen.map fun o => o.after.resolvedCount).Pairwise (· ≤ ·)

/-- **The order of completion does not show**, whenever and in whatever order the tasks of a
program complete. -/
theorem orderFree_history (service : TaskService σ) {program : ProgramRun M R}
    (hbuilt : ∀ run ∈ program.runs, run.Built) (changes : List (σ → σ)) (w : σ)
    (hsteady : ∀ o ∈ history (fun program => program.pollRegisters service.recorded) changes
      program w, ∀ e ∈ o.calls, e.isSteady samples = true) :
    OrderFree samples program
      (history (fun program => program.pollRegisters service.recorded) changes program w) := by
  have htrace := trace_history (ProgramRun.polls_program service) changes program w
  have hsettled := ProgramRun.trace_settled htrace
    (fun run hrun => (hbuilt run hrun).resultsOnSite) hsteady
  -- no poll changes the registers that the runs have or will have
  have hseen := hsettled.invariant
    (I := fun before => before.runs.map (CircuitRun.registers samples)
      = program.runs.map (CircuitRun.registers samples)) rfl
    (fun hbefore hstep => hstep.1.registers_eq.trans hbefore)
  constructor
  case waiting =>
    intro o ho
    obtain ⟨-, hstep⟩ := hseen o ho
    rw [hstep.waits_iff, hstep.isComplete_iff]
    simp
  case merged =>
    intro o ho hanswer
    obtain ⟨hbefore, hstep⟩ := hseen o ho
    obtain ⟨-, hmerged⟩ := hstep.answer_eq hanswer
    rw [hbefore] at hmerged
    refine ⟨_, hmerged, fun k => ?_, fun k => ?_, fun k => ?_⟩
    · rw [Registers.get?_mergeAll (·.bit) rfl fun _ _ => rfl, ← List.map_reverse,
        List.findSome?_map]
      rfl
    · rw [Registers.get?_mergeAll (·.float) rfl fun _ _ => rfl, ← List.map_reverse,
        List.findSome?_map]
      rfl
    · rw [Registers.get?_mergeAll (·.complex) rfl fun _ _ => rfl, ← List.map_reverse,
        List.findSome?_map]
      rfl
  case atMostOnce => exact ProgramRun.trace_deliveries_subperm hsettled
  case once =>
    intro o ho hanswer
    obtain ⟨hcomplete, -⟩ := (hseen o ho).2.answer_eq hanswer
    exact ProgramRun.trace_deliveries_perm hsettled o ho hcomplete
  case counts => exact ProgramRun.trace_resolvedCount hsettled

/-- Two runs with one readout, of which the first completes last: the second one's samples show. -/
theorem orderFree_history_sharedReadout :
    let samples : TaskHandle → Samples := fun handle => ⟨[[if handle.id = "first" then 0 else 1]]⟩
    let metadata : CircuitMetadata Nat := ⟨"ro", none, ∅, ∅⟩
    let program : ProgramRun Unit Nat :=
      ⟨(), [.remote ⟨"first", none⟩ metadata, .remote ⟨"second", none⟩ metadata]⟩
    let service := TaskService.afterQuestions samples
    let seen := history (fun program => program.pollRegisters service.recorded) [id, id] program 1
    OrderFree samples program seen ∧
      deliveries seen = [⟨"second", none⟩, ⟨"first", none⟩] ∧
      ∃ found, seen.map (fun o => o.answer) = [.ok none, .ok (some found)] ∧
        found.bit.get? "ro" = some [[true]] := by
  intro samples metadata program service seen
  have hbuilt : ∀ run ∈ program.runs, run.Built := by
    intro run hrun
    rcases List.mem_cons.mp hrun with rfl | hrun
    · exact .remote _ metadata
    · rw [List.mem_singleton.mp hrun]
      exact .remote _ metadata
  have hsteady : ∀ o ∈ seen, ∀ e ∈ o.calls, e.isSteady samples = true := by decide
  exact ⟨orderFree_history service hbuilt [id, id] 1 hsteady, rfl, _, rfl, by decide +kernel⟩

end CircuitDispatch
