import CircuitDispatch.Proofs.Dispatch.Exchanges

/-!
# Blocking and queued execution agree

A measurement can be run at once, where the runs of its circuits are waited for one after the other
(`Backend.measureRegisters`), or submitted and then waited for, where all runs are polled in rounds
(`Backend.submitAndAwait`). Each run has the same number of polls in both.

At a service that keeps to a schedule the two ways agree: both have the same registers if every task
is due within the polls that are granted, and give up with the same error otherwise
(`Backend.measureRegisters_agrees`). That the service keeps to its schedule is said of what it
answers in either way, and of nothing else. Each circuit has a task of its own; a task that two
circuits shared would be asked for twice as often in rounds.
-/

namespace CircuitDispatch

variable {R M σ : Type}

/-! ### One run after the other -/

/-- What waiting for a run can do. -/
def WaitStep (polls : Nat) (run : CircuitRun R) (calls : List Exchange)
    (answer : Except DispatchError (Registers R)) : Prop :=
  ∃ found after, PollsUpTo CircuitRun.PollStep polls run calls found after ∧
    answer = waitAnswer polls found

namespace Schedule

variable {schedule : Schedule} {earlier calls : List Exchange} {polls : Nat}
  {task : StartedTask R} {tasks : List (StartedTask R)}

/-- **Waiting for one run** of a task that was not asked for. -/
theorem wait_run {answer : Except DispatchError (Registers R)} (hpolls : 0 < polls)
    (hstep : WaitStep polls task.run calls answer) (hasked : questions task.handle earlier = 0)
    (hkept : schedule.keptBy earlier calls = true) :
    answer = if schedule.due task.handle ≤ polls then .ok (schedule.registers task)
      else .error (.pollTimeout polls) := by
  obtain ⟨found, after, hsteps, rfl⟩ := hstep
  have hstart : schedule.Stands 0 earlier task task.run := .pending hasked (.inl rfl)
  obtain ⟨done, hdone, hstands, rfl, hlast⟩ := hstart.pollsUpTo rfl hsteps hkept
  rw [Nat.zero_add] at hstands
  cases hstands with
  | pending _ hdue =>
    -- every poll that was granted is made
    have hall : done = polls := hlast rfl
    rw [if_neg (by omega)]
    rfl
  | resolved _ hdue =>
    rw [if_pos (Nat.le_trans hdue hdone)]
    rfl

/-- What is asked about one task leaves the others unasked. -/
private theorem unasked_of_wait {answer : Except DispatchError (Registers R)}
    (hstep : WaitStep polls task.run calls answer) (hnew : task.handle ∉ tasks.map (·.handle))
    (hasked : ∀ other ∈ tasks, questions other.handle earlier = 0) :
    ∀ other ∈ tasks, questions other.handle (earlier ++ calls) = 0 := by
  obtain ⟨found, after, hsteps, -⟩ := hstep
  intro other hother
  have hne : task.run.task ≠ .remote other.handle := fun heq =>
    hnew (List.mem_map.mpr ⟨other, hother, (TaskRef.remote.inj heq).symm⟩)
  rw [questions_append, hasked other hother, hsteps.questions_eq_zero hne]

/-- **One run after the other.** -/
theorem wait_series {answer : Except DispatchError (List (Registers R))} (hpolls : 0 < polls)
    (h : Series (WaitStep polls) (tasks.map StartedTask.run) calls answer)
    (hdistinct : (tasks.map (·.handle)).Nodup)
    (hasked : ∀ task ∈ tasks, questions task.handle earlier = 0)
    (hkept : schedule.keptBy earlier calls = true) :
    answer = if schedule.InTime polls tasks then .ok (tasks.map schedule.registers)
      else .error (.pollTimeout polls) := by
  -- the tasks behind the first are still unasked when its run has been waited for
  induction tasks generalizing earlier calls answer with
  | nil =>
    cases h with
    | done => exact (if_pos (List.forall_mem_nil _)).symm
  | cons task tasks ih =>
    obtain ⟨hfirst, hothers⟩ := List.forall_mem_cons.mp hasked
    obtain ⟨hnew, hdistinct⟩ := List.nodup_cons.mp hdistinct
    cases h with
    | next first others =>
      obtain ⟨hkept, hkept'⟩ := keptBy_append.mp hkept
      have hdue := wait_run hpolls first hfirst hkept
      have hrest := ih others hdistinct (unasked_of_wait first hnew hothers) hkept'
      split at hdue
      case isFalse => cases hdue
      case isTrue htask =>
        split at hrest
        case isFalse => cases hrest
        case isTrue htasks =>
          rw [if_pos (inTime_cons.mpr ⟨htask, htasks⟩), Except.ok.inj hdue, Except.ok.inj hrest]
          rfl
    | stopLater first others =>
      obtain ⟨hkept, hkept'⟩ := keptBy_append.mp hkept
      have hrest := ih others hdistinct (unasked_of_wait first hnew hothers) hkept'
      split at hrest
      case isTrue => cases hrest
      case isFalse hlate => rw [if_neg fun h => hlate (inTime_cons.mp h).2, hrest]
    | stop first =>
      have hdue := wait_run hpolls first hfirst hkept
      split at hdue
      case isTrue => cases hdue
      case isFalse hlate =>
        cases hdue
        rw [if_neg fun h => hlate (inTime_cons.mp h).1]

end Schedule

/-! ### The two ways -/

namespace Backend

variable {b : Backend R σ}

/-- What waiting for a run asks. -/
theorem exchanges_await (b : Backend R σ) (run : CircuitRun R) :
    Hands (b.recorded.await run) (b.await run) (WaitStep b.policy.maxPolls run) := by
  intro w
  obtain ⟨calls, found, after, w', hrecords, hsteps⟩ :=
    (CircuitRun.polls_circuit b.service).waitFor b.policy.maxPolls run w
  exact ⟨calls, _, w', hrecords.bind_pure rfl rfl, found, after, hsteps, rfl⟩

/-- Waits for runs in turn and merges their registers. -/
def awaitInTurn (b : Backend R σ) (runs : List (CircuitRun R)) :
    Call DispatchError σ (Registers R) := do
  return .mergeAll (← runs.mapM b.await)

theorem exchanges_awaitInTurn (b : Backend R σ) (runs : List (CircuitRun R)) :
    Hands (b.recorded.awaitInTurn runs) (b.awaitInTurn runs) fun calls answer =>
      ∃ told, Series (WaitStep b.policy.maxPolls) runs calls told ∧
        answer = told.map Registers.mergeAll := by
  refine (Hands.mapM b.exchanges_await runs).bind (fun calls told hseries => ?_) fun _ e hseries =>
    ⟨_, hseries, rfl⟩
  refine Hands.pure ⟨.ok told, ?_, rfl⟩
  rw [List.append_nil]
  exact hseries

section Outcomes

variable [Measurement M R]

/-- Waits for the outcome of a program. -/
def awaitOutcome (b : Backend R σ) (program : ProgramRun M R) :
    Call DispatchError σ (ProgramOutcome R) :=
  ExceptT.mk do
    let (answer, _) ← b.awaitProgram program
    return answer

theorem exchanges_awaitOutcome (b : Backend R σ) (program : ProgramRun M R) :
    Hands (b.recorded.awaitOutcome program) (b.awaitOutcome program) fun calls answer =>
      ∃ found after, PollsUpTo ProgramRun.OutcomeStep b.policy.maxPolls program calls found after ∧
        answer = waitAnswer b.policy.maxPolls found := by
  intro w
  obtain ⟨calls, found, after, w', hrecords, hsteps⟩ :=
    (ProgramRun.polls_outcome b.service).waitFor b.policy.maxPolls program w
  exact ⟨calls, _, w', hrecords.bind_pure rfl rfl, found, after, hsteps, rfl⟩

end Outcomes

variable [Scalar R] [Measurement M R]

/-- Submits a measurement and waits for its outcome. -/
def submitAndAwait (b : Backend R σ) (m : M) : Call DispatchError σ (ProgramOutcome R) := do
  b.awaitOutcome (← b.submitMeasurement m)

/-- Running a measurement at once submits it and waits for its runs in turn. -/
theorem measureRegisters_eq (b : Backend R σ) (m : M) :
    b.measureRegisters m = b.submitMeasurement m >>= fun program => b.awaitInTurn program.runs := by
  rw [submitMeasurement, bind_assoc]
  rfl

/-- The submission of a measurement that starts a program in a world. -/
structure Starts (b : Backend R σ) (m : M) (w : σ) (calls : List Exchange)
    (program : ProgramRun M R) (tasks : List (StartedTask R)) : Prop where
  records : ∃ w', Records (b.recorded.submitMeasurement m).run (b.submitMeasurement m).run w calls
    (.ok program) w'
  measurement : program.measurement = m
  /-- Each run is the run of a task that was just started. -/
  runs : program.runs = tasks.map StartedTask.run
  /-- No task was asked for. -/
  unasked : ∀ handle, questions handle calls = 0

/-- Submitting a measurement is submitting its circuits. -/
theorem exchanges_submitMeasurement {device : Device} (hdevice : b.device = .ok device)
    (hremote : device.isLocal = false) (m : M) :
    Hands (b.recorded.submitMeasurement m) (b.submitMeasurement m) fun calls answer =>
      Submitting calls (answer.map (·.runs)) ∧
        ∀ program, answer = .ok program → program.measurement = m := by
  refine (exchanges_submitAll hdevice hremote _).bind (fun calls runs hsubmitted => ?_)
    fun calls e hsubmitted => ⟨hsubmitted, fun _ hprogram => by cases hprogram⟩
  refine Hands.pure ⟨?_, ?_⟩
  · rw [List.append_nil]
    exact hsubmitted
  · intro program hprogram
    cases hprogram
    rfl

/-- **A submission that succeeds** on a remote device starts a program. -/
theorem exists_starts {device : Device} (hdevice : b.device = .ok device)
    (hremote : device.isLocal = false) {m : M} {program : ProgramRun M R} {w w' : σ}
    (hsubmit : (b.submitMeasurement m).run.run w = (.ok program, w')) :
    ∃ calls tasks, b.Starts m w calls program tasks := by
  obtain ⟨calls, answer, after, hrecords, hsubmitted, hmeasurement⟩ :=
    exchanges_submitMeasurement hdevice hremote m w
  -- the submission is the one that is given
  have hsame : (answer, after) = (.ok program, w') := hrecords.plain_eq.symm.trans hsubmit
  cases hsame
  obtain ⟨tasks, htasks⟩ := hsubmitted.started program.runs rfl
  exact ⟨calls, tasks, ⟨w', hrecords⟩, hmeasurement program rfl, htasks,
    questions_eq_zero_of_submissions hsubmitted.submissions⟩

namespace Starts

variable {m : M} {program : ProgramRun M R} {tasks : List (StartedTask R)} {w : σ}
  {calls : List Exchange} {schedule : Schedule}

/-- The tasks of the program are all waited for. -/
theorem pendingTasks_eq (h : b.Starts m w calls program tasks) :
    program.pendingTasks = tasks.map (·.handle) := by
  rw [ProgramRun.pendingTasks, h.runs, List.filterMap_map, ← List.filterMap_eq_map]
  rfl

theorem registers_eq (h : b.Starts m w calls program tasks) :
    program.runs.map (CircuitRun.registers schedule.samples) = tasks.map schedule.registers := by
  rw [h.runs, List.map_map]
  rfl

/-- **Blocking.** -/
theorem measureRegisters_answer (h : b.Starts m w calls program tasks)
    (hpolls : 0 < b.policy.maxPolls) (hdistinct : (tasks.map (·.handle)).Nodup)
    (hkept : schedule.keptBy [] (Call.handed (b.recorded.measureRegisters m) w) = true) :
    ((b.measureRegisters m).run.run w).1 = if schedule.InTime b.policy.maxPolls tasks
      then .ok (.mergeAll (tasks.map schedule.registers))
      else .error (.pollTimeout b.policy.maxPolls) := by
  obtain ⟨w', hrecords⟩ := h.records
  obtain ⟨waits, answer, hlog, hanswer, told, hseries, rfl⟩ := Hands.handed_bind
    (f := fun program => b.recorded.awaitInTurn program.runs)
    (g := fun program => b.awaitInTurn program.runs) hrecords
    (b.exchanges_awaitInTurn program.runs)
  -- the log is that of the submission, and then that of the waits
  rw [measureRegisters_eq, hlog, Schedule.keptBy_append] at hkept
  rw [h.runs] at hseries
  rw [measureRegisters_eq, hanswer, Schedule.wait_series hpolls hseries hdistinct
    (fun task _ => h.unasked task.handle) hkept.2]
  split
  · rfl
  · rfl

/-- **Queued.** -/
theorem submitAndAwait_answer (h : b.Starts m w calls program tasks)
    (hpolls : 0 < b.policy.maxPolls) (hdistinct : (tasks.map (·.handle)).Nodup)
    (hkind : (Measurement.kind m).isRegisterOnly = true)
    (hkept : schedule.keptBy [] (Call.handed (b.recorded.submitAndAwait m) w) = true) :
    ((b.submitAndAwait m).run.run w).1 = if schedule.InTime b.policy.maxPolls tasks
      then .ok (.registers (.mergeAll (tasks.map schedule.registers)))
      else .error (.pollTimeout b.policy.maxPolls) := by
  obtain ⟨w', hrecords⟩ := h.records
  obtain ⟨waits, answer, hlog, hanswer, found, after, hsteps, rfl⟩ := Hands.handed_bind
    (f := fun program => b.recorded.awaitOutcome program)
    (g := fun program => b.awaitOutcome program) hrecords (b.exchanges_awaitOutcome program)
  rw [submitAndAwait, hlog, Schedule.keptBy_append] at hkept
  -- before the first round every run is pending, and no task was asked for
  have hstart : List.Forall₂ (schedule.Stands 0 calls) tasks program.runs := by
    rw [h.runs]
    refine List.forall₂_map_right_iff.mpr (List.forall₂_same.mpr fun task _ => ?_)
    exact .pending (h.unasked task.handle) (.inl rfl)
  rw [submitAndAwait, hanswer, ProgramRun.wait_rounds hsteps (h.measurement ▸ hkind) hstart
    hdistinct hkept.2, Nat.zero_add]
  by_cases htime : schedule.InTime b.policy.maxPolls tasks
  · rw [if_pos htime, if_pos ⟨hpolls, htime⟩]
    rfl
  · rw [if_neg htime, if_neg fun h => htime h.2]
    rfl

end Starts

/-- How the two ways agree on a submitted measurement. -/
structure WaysAgree (b : Backend R σ) (schedule : Schedule) (m : M) (program : ProgramRun M R)
    (w : σ) : Prop where
  /-- If every task is due within the polls, both have the merged registers of the schedule. -/
  inTime : (∀ handle ∈ program.pendingTasks, schedule.due handle ≤ b.policy.maxPolls) →
    let registers := .mergeAll (program.runs.map (CircuitRun.registers schedule.samples))
    ((b.measureRegisters m).run.run w).1 = .ok registers ∧
      ((b.submitAndAwait m).run.run w).1 = .ok (.registers registers)
  /-- If some task is not, both give up. -/
  late : (∃ handle ∈ program.pendingTasks, b.policy.maxPolls < schedule.due handle) →
    ((b.measureRegisters m).run.run w).1 = .error (.pollTimeout b.policy.maxPolls) ∧
      ((b.submitAndAwait m).run.run w).1 = .error (.pollTimeout b.policy.maxPolls)

end Backend

/-- **Blocking and queued execution agree**, at a service that keeps to a schedule. -/
theorem Backend.measureRegisters_agrees {b : Backend Float σ} {device : Device}
    {m : ClassicalRegister Float} {program : ProgramRun (ClassicalRegister Float) Float}
    {schedule : Schedule} {w w' : σ} (hdevice : b.device = .ok device)
    (hremote : device.isLocal = false) (hpolls : 0 < b.policy.maxPolls)
    (hsubmit : (b.submitMeasurement m).run.run w = (.ok program, w'))
    (hdistinct : program.pendingTasks.Nodup)
    (hblocking : schedule.keptBy [] (Call.handed (b.recorded.measureRegisters m) w) = true)
    (hqueued : schedule.keptBy [] (Call.handed (b.recorded.submitAndAwait m) w) = true) :
    b.WaysAgree schedule m program w := by
  obtain ⟨calls, tasks, hstarts⟩ := exists_starts hdevice hremote hsubmit
  have hpending := hstarts.pendingTasks_eq
  rw [hpending] at hdistinct
  have hanswer := hstarts.measureRegisters_answer hpolls hdistinct hblocking
  have hanswer' := hstarts.submitAndAwait_answer hpolls hdistinct rfl hqueued
  rw [← hstarts.registers_eq] at hanswer hanswer'
  constructor
  case inTime =>
    intro hall
    rw [hpending] at hall
    have htime : schedule.InTime b.policy.maxPolls tasks := List.forall_mem_map.mp hall
    rw [hanswer, hanswer', if_pos htime, if_pos htime]
    exact ⟨rfl, rfl⟩
  case late =>
    rintro ⟨handle, hmem, hlate⟩
    rw [hpending] at hmem
    obtain ⟨task, htask, rfl⟩ := List.mem_map.mp hmem
    have htime : ¬ schedule.InTime b.policy.maxPolls tasks := fun htime =>
      Nat.not_le_of_lt hlate (htime task htask)
    rw [hanswer, hanswer', if_neg htime, if_neg htime]
    exact ⟨rfl, rfl⟩

/-- A service that hands out the handles it is given and keeps to a schedule. It remembers what it
was asked for. -/
def TaskService.keeping (schedule : Schedule) :
    TaskService (List TaskHandle × List TaskHandle) where
  name := "keeping"
  submit := submit
  submitBatch := oneByOne submit
  state handle := ExceptT.mk fun (handles, asked) =>
    (.ok (if schedule.due handle ≤ asked.count handle + 1 then .completed else .running),
      (handles, handle :: asked))
  fetch handle := return schedule.samples handle
where
  submit (_ : TaskRequest) :
      Call ServiceError (List TaskHandle × List TaskHandle) TaskHandle := ExceptT.mk fun
    | ([], asked) => (.error (.submissionFailed "no more"), ([], asked))
    | (handle :: handles, asked) => (.ok handle, (handles, asked))

/-- The first task is due with the second question, and the other one with the first. -/
def Schedule.firstLast : Schedule where
  due handle := if handle.id = "first" then 2 else 1
  samples handle := ⟨[[if handle.id = "first" then 0 else 1]]⟩

/-- A simulator backend at such a service. -/
def Backend.keeping (maxPolls : Nat) : Backend Float (List TaskHandle × List TaskHandle) where
  config := { Config.forDevice "sv1" with family := .force .ionq }
  gateway := ⟨.keeping .firstLast, none⟩
  policy := { maxPolls }

/-- Two circuits with one readout. -/
def sharedReadout : ClassicalRegister Float :=
  ⟨none, [⟨[.measure 0 "ro" 0]⟩, ⟨[.measure 1 "ro" 0]⟩]⟩

/-- With two polls both ways show the second circuit under the readout, with one poll both give
up. -/
theorem Backend.measureRegisters_agrees_sharedReadout :
    let w : List TaskHandle × List TaskHandle := ([⟨"first", none⟩, ⟨"second", none⟩], [])
    ∃ program, (((Backend.keeping 2).submitMeasurement sharedReadout).run.run w).1 = .ok program ∧
      (Backend.keeping 2).WaysAgree .firstLast sharedReadout program w ∧
      (Backend.keeping 1).WaysAgree .firstLast sharedReadout program w ∧
      (∃ registers, (((Backend.keeping 2).measureRegisters sharedReadout).run.run w).1
          = .ok registers ∧ registers.bit.get? "ro" = some [[true]]) ∧
      (((Backend.keeping 1).measureRegisters sharedReadout).run.run w).1
        = .error (.pollTimeout 1) := by
  intro w
  refine ⟨_, rfl, ?_, ?_, ?_, ?_⟩
  · exact measureRegisters_agrees rfl rfl (by decide) rfl (by decide) rfl rfl
  · exact measureRegisters_agrees rfl rfl (by decide) rfl (by decide) rfl rfl
  · exact ⟨_, rfl, by decide +kernel⟩
  · rfl

end CircuitDispatch
