import CircuitDispatch.Proofs.Run.Waiting

/-!
# Waiting for scheduled tasks

A schedule says for every task which question for its state is the first that finds it completed,
and what its samples are (`Schedule`). A log keeps to it if every answer in it is the scheduled one
(`Schedule.keptBy`); whether a task is asked for by one run or by several, and what is asked in
between, makes no difference.

`Schedule.Stands` says how the run of a task stands after some polls. One poll takes it one poll
further (`Stands.poll`), and the other runs stand as before, since they are of other tasks
(`PollStep.questions_eq_zero`, `Stands.append`). So a single run is waited for
(`Stands.pollsUpTo`), and so are all runs of a program, in rounds: one poll of the program takes
each of its runs one poll further (`RunsStep.stands`), and the outcome is there exactly if
every task is due within the polls that are granted (`wait_rounds`).
-/

namespace CircuitDispatch

variable {R M σ : Type}

/-- How often the state of a task is asked for. -/
def questions (handle : TaskHandle) (log : List Exchange) : Nat :=
  log.countP fun
    | .state asked _ => asked = handle
    | _ => false

theorem questions_append (handle : TaskHandle) (log log' : List Exchange) :
    questions handle (log ++ log') = questions handle log + questions handle log' :=
  List.countP_append

/-- A submitted task, and what its samples are for. -/
structure StartedTask (R : Type) where
  handle : TaskHandle
  metadata : CircuitMetadata R

/-- The run that a task starts with. -/
def StartedTask.run (task : StartedTask R) : CircuitRun R := .remote task.handle task.metadata

/-- When the tasks at a service complete, and their samples. -/
structure Schedule where
  /-- The first question for its state that finds a task completed, counted from 1. -/
  due : TaskHandle → Nat
  samples : TaskHandle → Samples

namespace Schedule

/-- Whether an answer is the scheduled one, after some exchanges. -/
def allows (schedule : Schedule) (earlier : List Exchange) : Exchange → Bool
  | .state handle (.ok state) =>
    if schedule.due handle ≤ questions handle earlier + 1 then state.isSuccess else state.isPending
  | exchange => exchange.isSteady schedule.samples

/-- Whether the answers of a log are the scheduled ones, after some exchanges. -/
def keptBy (schedule : Schedule) : List Exchange → List Exchange → Bool
  | _, [] => true
  | earlier, exchange :: log =>
    schedule.allows earlier exchange && schedule.keptBy (earlier ++ [exchange]) log

/-- The registers that a task has in the end. -/
def registers (schedule : Schedule) (task : StartedTask R) : Registers R :=
  task.metadata.assemble (schedule.samples task.handle)

/-- Whether tasks complete within so many questions each. -/
def InTime (schedule : Schedule) (polls : Nat) (tasks : List (StartedTask R)) : Prop :=
  ∀ task ∈ tasks, schedule.due task.handle ≤ polls

instance (schedule : Schedule) (polls : Nat) (tasks : List (StartedTask R)) :
    Decidable (schedule.InTime polls tasks) :=
  inferInstanceAs (Decidable (∀ task ∈ tasks, schedule.due task.handle ≤ polls))

variable {schedule : Schedule} {earlier log calls calls' : List Exchange}

/-- A state on schedule is completed from the question on at which the task is due. -/
theorem of_allows_state {handle : TaskHandle} {state : TaskState}
    (h : schedule.allows earlier (.state handle (.ok state)) = true) :
    (schedule.due handle ≤ questions handle earlier + 1 ∧ state.isSuccess = true) ∨
      (questions handle earlier + 1 < schedule.due handle ∧ state.isPending = true) := by
  rw [allows] at h
  split at h
  case isTrue hdue => exact .inl ⟨hdue, h⟩
  case isFalse hlate => exact .inr ⟨Nat.lt_of_not_le hlate, h⟩

theorem keptBy_cons {exchange : Exchange} :
    schedule.keptBy earlier (exchange :: calls) = true ↔
      schedule.allows earlier exchange = true ∧
        schedule.keptBy (earlier ++ [exchange]) calls = true := by
  rw [keptBy, Bool.and_eq_true]

theorem keptBy_append :
    schedule.keptBy earlier (calls ++ calls') = true ↔
      schedule.keptBy earlier calls = true ∧ schedule.keptBy (earlier ++ calls) calls' = true := by
  -- what came earlier grows by the exchange in front
  induction calls generalizing earlier with
  | nil =>
    rw [List.nil_append, List.append_nil]
    exact (and_iff_right rfl).symm
  | cons exchange calls ih =>
    rw [List.cons_append, keptBy_cons, keptBy_cons, ih, List.append_assoc, List.singleton_append,
      and_assoc]

theorem inTime_cons {polls : Nat} {task : StartedTask R} {tasks : List (StartedTask R)} :
    schedule.InTime polls (task :: tasks) ↔
      schedule.due task.handle ≤ polls ∧ schedule.InTime polls tasks :=
  List.forall_mem_cons

/-- How the run of a task stands after so many polls, when the service was asked `log`. -/
inductive Stands (schedule : Schedule) (polls : Nat) (log : List Exchange)
    (task : StartedTask R) : CircuitRun R → Prop where
  | pending (hasked : questions task.handle log = polls)
      (hdue : polls = 0 ∨ polls < schedule.due task.handle) : Stands schedule polls log task task.run
  | resolved (hpolls : 0 < polls) (hdue : schedule.due task.handle ≤ polls) :
    Stands schedule polls log task (task.run.resolve (schedule.registers task))

end Schedule

/-! ### Questions about other tasks -/

/-- A poll asks about the task of its run only. -/
theorem CircuitRun.PollStep.questions_eq_zero {run after : CircuitRun R} {calls : List Exchange}
    {answer : Except DispatchError (Option (Registers R))} (h : run.PollStep calls answer after)
    {handle : TaskHandle} (hne : run.task ≠ .remote handle) : questions handle calls = 0 := by
  have hother : ∀ {asked : TaskHandle}, run.task = .remote asked → asked ≠ handle := by
    rintro asked htask rfl
    exact hne htask
  cases h with
  | resolved | lost => rfl
  | stateError _ htask | failed _ htask | cancelled _ htask | waiting _ htask
  | fetchError _ htask | fetched _ htask => simp [questions, hother htask]

/-- Polling runs in order asks about their tasks only. -/
theorem ProgramRun.RunsStep.questions_eq_zero {runs after : List (CircuitRun R)}
    {calls : List Exchange} {answer : Except DispatchError Unit}
    (h : RunsStep runs calls answer after) {handle : TaskHandle}
    (hne : ∀ run ∈ runs, run.task ≠ .remote handle) : questions handle calls = 0 := by
  induction h with
  | done => rfl
  | next first _ ih =>
    obtain ⟨hfirst, hrest⟩ := List.forall_mem_cons.mp hne
    rw [questions_append, first.questions_eq_zero hfirst, ih hrest]
  | stop first => exact first.questions_eq_zero (List.forall_mem_cons.mp hne).1

/-- Polling a run again and again asks about its task only. -/
theorem PollsUpTo.questions_eq_zero {n : Nat} {run after : CircuitRun R} {calls : List Exchange}
    {answer : Except DispatchError (Option (Registers R))}
    (h : PollsUpTo CircuitRun.PollStep n run calls answer after) {handle : TaskHandle}
    (hne : run.task ≠ .remote handle) : questions handle calls = 0 := by
  induction h with
  | exhausted => rfl
  | answered first => exact first.questions_eq_zero hne
  | again first _ ih =>
    rw [questions_append, first.questions_eq_zero hne, ih (first.task_metadata_eq.1 ▸ hne)]

namespace Schedule

variable {schedule : Schedule} {earlier log calls calls' : List Exchange} {polls n : Nat}
  {task : StartedTask R} {tasks : List (StartedTask R)} {run after : CircuitRun R}
  {runs : List (CircuitRun R)}

namespace Stands

theorem task_eq (h : schedule.Stands polls log task run) : run.task = .remote task.handle := by
  cases h with
  | pending => rfl
  | resolved => rfl

/-- What is asked about other tasks leaves a run as it stands. -/
theorem append (h : schedule.Stands polls log task run)
    (hother : questions task.handle calls = 0) :
    schedule.Stands polls (log ++ calls) task run := by
  cases h with
  | pending hasked hdue =>
    refine .pending ?_ hdue
    rw [questions_append, hother, hasked]
    rfl
  | resolved hpolls hdue => exact .resolved hpolls hdue

/-- After a poll at least, a run has its results exactly if its task is due. -/
theorem isResolved_iff (h : schedule.Stands polls log task run) (hpolls : 0 < polls) :
    run.isResolved = true ↔ schedule.due task.handle ≤ polls := by
  cases h with
  | pending _ hdue =>
    have hlate : ¬ schedule.due task.handle ≤ polls := by omega
    exact iff_of_false Bool.false_ne_true hlate
  | resolved _ hdue => exact iff_of_true rfl hdue

/-- Results are those of the schedule. -/
theorem results_eq (h : schedule.Stands polls log task run) (hresolved : run.isResolved = true) :
    run.results = some (schedule.registers task) := by
  cases h with
  | pending => cases hresolved
  | resolved => rfl

/-- **One poll further.** If the service keeps to the schedule, a poll answers with the results that
the run then has. -/
theorem poll {answer : Except DispatchError (Option (Registers R))}
    (h : schedule.Stands polls earlier task run) (hstep : run.PollStep calls answer after)
    (hkept : schedule.keptBy earlier calls = true) :
    schedule.Stands (polls + 1) (earlier ++ calls) task after ∧ answer = .ok after.results := by
  cases h with
  | resolved hpolls hdue =>
    obtain ⟨rfl, rfl, rfl⟩ := hstep.of_results rfl
    exact ⟨.resolved (Nat.succ_pos polls) (Nat.le_succ_of_le hdue), rfl⟩
  | pending hasked hdue =>
    cases hstep with
    | resolved hresults => cases hresults
    | lost _ htask => cases htask
    -- these answers are on no schedule
    | stateError =>
      obtain ⟨hstate, -⟩ := keptBy_cons.mp hkept
      cases hstate
    | failed | cancelled =>
      obtain ⟨hstate, -⟩ := keptBy_cons.mp hkept
      rcases of_allows_state hstate with ⟨-, hsuccess⟩ | ⟨-, hpending⟩
      · cases hsuccess
      · cases hpending
    | fetchError =>
      obtain ⟨-, hfetch⟩ := keptBy_cons.mp hkept
      cases (keptBy_cons.mp hfetch).1
    | @waiting handle state _ htask hpending =>
      cases htask
      obtain ⟨hstate, -⟩ := keptBy_cons.mp hkept
      rcases of_allows_state hstate with ⟨-, hsuccess⟩ | ⟨hlate, -⟩
      · -- a completed task is waited for no longer
        rw [of_decide_eq_true hsuccess] at hpending
        cases hpending
      · rw [hasked] at hlate
        refine ⟨.pending ?_ (.inr hlate), rfl⟩
        rw [questions_append, hasked]
        simp [questions]
    | @fetched handle samples _ htask =>
      cases htask
      obtain ⟨hstate, hfetch⟩ := keptBy_cons.mp hkept
      rcases of_allows_state hstate with ⟨hdue, -⟩ | ⟨-, hpending⟩
      · have hsamples : samples = schedule.samples task.handle :=
          of_decide_eq_true (keptBy_cons.mp hfetch).1
        rw [hasked] at hdue
        rw [hsamples]
        exact ⟨.resolved (Nat.succ_pos polls) hdue, rfl⟩
      · cases hpending

/-- **Several polls further.** Polling stops when the run has its results. -/
theorem pollsUpTo {answer : Except DispatchError (Option (Registers R))}
    (h : schedule.Stands polls earlier task run) (hnone : run.results = none)
    (hsteps : PollsUpTo CircuitRun.PollStep n run calls answer after)
    (hkept : schedule.keptBy earlier calls = true) :
    ∃ done ≤ n, schedule.Stands (polls + done) (earlier ++ calls) task after ∧
      answer = .ok after.results ∧ (after.results = none → done = n) := by
  -- the first poll takes the run one further, and the others start from there
  induction hsteps generalizing polls earlier with
  | exhausted run =>
    rw [List.append_nil]
    exact ⟨0, Nat.le_refl 0, h, by rw [hnone], fun _ => rfl⟩
  | answered first hanswer =>
    obtain ⟨hstands, rfl⟩ := h.poll first hkept
    exact ⟨1, by omega, hstands, rfl, fun hnone => absurd (congrArg Except.ok hnone) hanswer⟩
  | @again n _ _ _ _ _ _ first _ ih =>
    obtain ⟨hkept, hkept'⟩ := keptBy_append.mp hkept
    obtain ⟨hstands, hanswer⟩ := h.poll first hkept
    obtain ⟨done, hdone, hstands', hanswer', hlast⟩ :=
      ih hstands (Except.ok.inj hanswer).symm hkept'
    refine ⟨done + 1, Nat.succ_le_succ hdone, ?_, hanswer', fun hnone => by rw [hlast hnone]⟩
    rw [← List.append_assoc, Nat.add_comm done, ← Nat.add_assoc]
    exact hstands'

end Stands

/-- Runs that stand some way are those of the tasks, in order. -/
theorem map_task_eq (h : List.Forall₂ (schedule.Stands polls log) tasks runs) :
    runs.map (·.task) = tasks.map fun task => .remote task.handle := by
  induction h with
  | nil => rfl
  | cons hrun _ ih => rw [List.map_cons, List.map_cons, hrun.task_eq, ih]

end Schedule

namespace ProgramRun

variable {schedule : Schedule} {earlier log calls : List Exchange} {polls n : Nat}
  {tasks : List (StartedTask R)}

/-- **One round further.** A poll of all runs takes each of them one poll further. -/
theorem RunsStep.stands {runs after : List (CircuitRun R)} {answer : Except DispatchError Unit}
    (h : RunsStep runs calls answer after)
    (hstands : List.Forall₂ (schedule.Stands polls earlier) tasks runs)
    (hdistinct : (tasks.map (·.handle)).Nodup) (hkept : schedule.keptBy earlier calls = true) :
    answer = .ok () ∧
      List.Forall₂ (schedule.Stands (polls + 1) (earlier ++ calls)) tasks after := by
  induction h generalizing tasks earlier with
  | done =>
    cases hstands
    exact ⟨rfl, .nil⟩
  | @next run after rest rest' calls calls' found answer first others ih =>
    obtain ⟨hkept, hkept'⟩ := Schedule.keptBy_append.mp hkept
    cases hstands with
    | @cons task _ tasks _ hrun hrest =>
      obtain ⟨hnew, hdistinct⟩ := List.nodup_cons.mp hdistinct
      obtain ⟨hafter, -⟩ := hrun.poll first hkept
      -- the questions about the first task leave the other runs as they stand
      have hrest' : List.Forall₂ (schedule.Stands polls (earlier ++ calls)) tasks rest := by
        refine ((List.forall₂_and_left _ _).mpr ⟨fun other hother => ?_, hrest⟩).imp
          fun other run h => h.2.append h.1
        refine first.questions_eq_zero fun heq => hnew ?_
        rw [hrun.task_eq] at heq
        exact List.mem_map.mpr ⟨other, hother, (TaskRef.remote.inj heq).symm⟩
      obtain ⟨hanswer, hothers⟩ := ih hrest' hdistinct hkept'
      -- and the questions about the others leave the first run as it stands after its poll
      have hquiet : questions task.handle calls' = 0 := by
        refine others.questions_eq_zero fun run hmem heq => hnew ?_
        have htask : TaskRef.remote task.handle ∈ rest.map (·.task) :=
          List.mem_map.mpr ⟨run, hmem, heq⟩
        rw [Schedule.map_task_eq hrest] at htask
        obtain ⟨other, hother, hsame⟩ := List.mem_map.mp htask
        exact List.mem_map.mpr ⟨other, hother, TaskRef.remote.inj hsame⟩
      rw [← List.append_assoc]
      exact ⟨hanswer, .cons (hafter.append hquiet) hothers⟩
  | stop first =>
    cases hstands with
    | cons hrun _ =>
      obtain ⟨-, hanswer⟩ := hrun.poll first hkept
      cases hanswer

/-- After a round at least, all runs have their results exactly if all tasks are due. -/
theorem isComplete_iff_inTime {program : ProgramRun M R} (hpolls : 0 < polls)
    (hstands : List.Forall₂ (schedule.Stands polls log) tasks program.runs) :
    program.isComplete = true ↔ schedule.InTime polls tasks := by
  rw [isComplete_iff]
  -- it does not matter which program the runs are of
  generalize program.runs = runs at hstands
  induction hstands with
  | nil => exact iff_of_true (List.forall_mem_nil _) (List.forall_mem_nil _)
  | cons hrun _ ih =>
    rw [List.forall_mem_cons, Schedule.inTime_cons, hrun.isResolved_iff hpolls, ih]

/-- A complete program has the registers of the schedule, merged in the order of submission. -/
theorem mergedRegisters_eq_schedule {program : ProgramRun M R}
    (hcomplete : program.isComplete = true)
    (hstands : List.Forall₂ (schedule.Stands polls log) tasks program.runs) :
    program.mergedRegisters = .mergeAll (tasks.map schedule.registers) := by
  rw [isComplete_iff] at hcomplete
  unfold mergedRegisters
  generalize program.runs = runs at hstands hcomplete
  refine congrArg Registers.mergeAll ?_
  induction hstands with
  | nil => rfl
  | cons hrun _ ih =>
    obtain ⟨hfirst, hothers⟩ := List.forall_mem_cons.mp hcomplete
    rw [List.filterMap_cons_some (hrun.results_eq hfirst), List.map_cons, ih hothers]

variable [Measurement M R]

/-- One poll for the outcome of a measurement that only collects registers. -/
theorem OutcomeStep.stands {program after : ProgramRun M R}
    {answer : Except DispatchError (Option (ProgramOutcome R))}
    (h : OutcomeStep program calls answer after)
    (hkind : (Measurement.kind program.measurement).isRegisterOnly = true)
    (hstands : List.Forall₂ (schedule.Stands polls earlier) tasks program.runs)
    (hdistinct : (tasks.map (·.handle)).Nodup) (hkept : schedule.keptBy earlier calls = true) :
    after.measurement = program.measurement ∧
      List.Forall₂ (schedule.Stands (polls + 1) (earlier ++ calls)) tasks after.runs ∧
      answer = .ok (if schedule.InTime (polls + 1) tasks
        then some (.registers (.mergeAll (tasks.map schedule.registers))) else none) := by
  obtain ⟨found, hstep, rfl⟩ := h
  cases hstep with
  | stopped hruns =>
    obtain ⟨hanswer, -⟩ := hruns.stands hstands hdistinct hkept
    cases hanswer
  | polled hruns hmeasurement =>
    obtain ⟨-, hafter⟩ := hruns.stands hstands hdistinct hkept
    have hcomplete : after.isComplete = true ↔ schedule.InTime (polls + 1) tasks :=
      isComplete_iff_inTime (Nat.succ_pos polls) hafter
    refine ⟨hmeasurement, hafter, ?_⟩
    by_cases htime : schedule.InTime (polls + 1) tasks
    · have hall := hcomplete.mpr htime
      rw [if_pos htime, if_pos hall, outcomeOf, outcome, hmeasurement, if_pos hkind,
        mergedRegisters_eq_schedule hall hafter]
      rfl
    · rw [if_neg htime, if_neg (mt hcomplete.mp htime)]
      rfl

/-- **All runs in rounds.** -/
theorem wait_rounds {program after : ProgramRun M R}
    {answer : Except DispatchError (Option (ProgramOutcome R))}
    (h : PollsUpTo OutcomeStep n program calls answer after)
    (hkind : (Measurement.kind program.measurement).isRegisterOnly = true)
    (hstands : List.Forall₂ (schedule.Stands polls earlier) tasks program.runs)
    (hdistinct : (tasks.map (·.handle)).Nodup) (hkept : schedule.keptBy earlier calls = true) :
    answer = .ok (if 0 < n ∧ schedule.InTime (polls + n) tasks
      then some (.registers (.mergeAll (tasks.map schedule.registers))) else none) := by
  -- between two rounds it is only the number of polls behind the runs that changes
  induction h generalizing polls earlier with
  | exhausted => rw [if_neg fun h => Nat.lt_irrefl 0 h.1]
  | @answered n _ _ _ _ first hanswer =>
    obtain ⟨-, -, rfl⟩ := first.stands hkind hstands hdistinct hkept
    split at hanswer
    · next htime =>
      have hlater : schedule.InTime (polls + (n + 1)) tasks :=
        fun task htask => Nat.le_trans (htime task htask) (by omega)
      rw [if_pos htime, if_pos ⟨Nat.succ_pos n, hlater⟩]
    · exact absurd rfl hanswer
  | @again n _ _ _ _ _ _ first _ ih =>
    obtain ⟨hkept, hkept'⟩ := Schedule.keptBy_append.mp hkept
    obtain ⟨hmeasurement, hbetween, hanswer⟩ := first.stands hkind hstands hdistinct hkept
    have hwaits : ¬ schedule.InTime (polls + 1) tasks := by
      intro htime
      rw [if_pos htime] at hanswer
      cases hanswer
    rw [ih (hmeasurement ▸ hkind) hbetween hkept', Nat.add_assoc, Nat.add_comm 1 n]
    -- if no poll is left, the one that was made has waited
    have hiff : (0 < n ∧ schedule.InTime (polls + (n + 1)) tasks) ↔
        (0 < n + 1 ∧ schedule.InTime (polls + (n + 1)) tasks) := by
      refine ⟨fun h => ⟨Nat.succ_pos n, h.2⟩, fun h => ⟨Nat.pos_of_ne_zero ?_, h.2⟩⟩
      rintro rfl
      exact hwaits h.2
    rw [if_congr hiff rfl rfl]

end ProgramRun

end CircuitDispatch
