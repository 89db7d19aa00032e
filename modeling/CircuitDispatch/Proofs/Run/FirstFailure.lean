import CircuitDispatch.Proofs.Run.ProgramPolling

/-!
# A poll stops at the first run that fails

One poll of a program goes through the runs in the order of their submission and ends with the first
one that fails. The runs before it are polled once and keep what they are delivered, and the error
of the program is the error of this run. The runs behind it are not polled at all: nothing is asked
about their tasks, and they stay as they were (`ProgramRun.UpToFirstFailure`,
`ProgramRun.polls_upToFirstFailure`). So every run is polled exactly if none but the last one fails.

A run whose task has failed for good therefore starves those behind it: their samples are never
fetched, although they are there for the asking (`ProgramRun.runs_starve`).
-/

namespace CircuitDispatch

variable {R M σ : Type}

/-- A poll that is delivered samples resolves its run with them. -/
theorem CircuitRun.PollStep.results_of_fetch {run after : CircuitRun R} {calls : List Exchange}
    {answer : Except DispatchError (Option (Registers R))} (h : run.PollStep calls answer after)
    {handle : TaskHandle} {samples : Samples} (hfetch : .fetch handle (.ok samples) ∈ calls) :
    after.results = some (run.metadata.assemble samples) := by
  have hdelivered : handle ∈ calls.filterMap Exchange.delivered? :=
    List.mem_filterMap.mpr ⟨_, hfetch, rfl⟩
  rcases h.unchanged_or_fetched with ⟨hnone, -⟩ | ⟨asked, delivered, -, hcalls, -, hafter⟩
  · rw [hnone] at hdelivered
    cases hdelivered
  · -- the only samples among the exchanges are those that the run is resolved with
    rw [hcalls] at hfetch
    obtain ⟨-, rfl⟩ : handle = asked ∧ samples = delivered := by simpa using hfetch
    rw [hafter]
    rfl

namespace ProgramRun

/-- What polling runs in order does: `polled` are the polls of single runs that take place. -/
structure UpToFirstFailure (runs : List (CircuitRun R)) (calls : List Exchange)
    (answer : Except DispatchError Unit) (after : List (CircuitRun R))
    (polled : List (Observation (CircuitRun R) (Registers R))) : Prop where
  /-- The first runs are polled, each of them once. -/
  front : polled.map (·.before) = runs.take polled.length
  /-- Nothing is asked besides. -/
  calls_eq : calls = polled.flatMap (·.calls)
  /-- The runs behind the polled ones stay as they were. -/
  after_eq : after = polled.map (·.after) ++ runs.drop polled.length
  /-- Each of the polls is what a poll of a run can be. -/
  step : ∀ o ∈ polled, o.before.PollStep o.calls o.answer o.after
  /-- Samples that are delivered resolve their run, also if a later one fails. -/
  collected : ∀ o ∈ polled, ∀ handle samples, .fetch handle (.ok samples) ∈ o.calls →
    o.after.results = some (o.before.metadata.assemble samples)
  /-- No poll follows one that fails. -/
  stops : ∀ o ∈ polled.dropLast, ∀ e, o.answer ≠ .error e
  /-- An error is the error of a run that is polled. -/
  error_iff : ∀ e, answer = .error e ↔ ∃ o ∈ polled, o.answer = .error e
  /-- If no run fails, all are polled. -/
  all : answer = .ok () → polled.length = runs.length

namespace UpToFirstFailure

variable {run between : CircuitRun R} {rest after : List (CircuitRun R)}
  {calls calls' : List Exchange} {answer : Except DispatchError Unit}
  {polled : List (Observation (CircuitRun R) (Registers R))}

theorem nil : UpToFirstFailure ([] : List (CircuitRun R)) [] (.ok ()) [] [] where
  front := rfl
  calls_eq := rfl
  after_eq := rfl
  step := by simp
  collected := by simp
  stops := by simp
  error_iff := by simp
  all := fun _ => rfl

/-- A run that fails is the last one. -/
theorem singleton {e : DispatchError} (first : run.PollStep calls (.error e) between) :
    UpToFirstFailure (run :: rest) calls (.error e) (between :: rest)
      [⟨run, calls, .error e, between⟩] where
  front := rfl
  calls_eq := by rw [List.flatMap_singleton]
  after_eq := rfl
  step := by
    intro o ho
    rw [List.mem_singleton.mp ho]
    exact first
  collected := by
    intro o ho handle samples hfetch
    obtain rfl := List.mem_singleton.mp ho
    exact first.results_of_fetch hfetch
  stops := by simp
  error_iff := by simp
  all := by
    intro h
    cases h

/-- A run that does not fail is followed by the polls of the others. -/
theorem cons {found : Option (Registers R)} (first : run.PollStep calls (.ok found) between)
    (h : UpToFirstFailure rest calls' answer after polled) :
    UpToFirstFailure (run :: rest) (calls ++ calls') answer (between :: after)
      (⟨run, calls, .ok found, between⟩ :: polled) where
  front := by rw [List.map_cons, List.length_cons, List.take_succ_cons, h.front]
  calls_eq := by rw [List.flatMap_cons, h.calls_eq]
  after_eq := by rw [List.map_cons, List.length_cons, List.drop_succ_cons, h.after_eq]; rfl
  step := by
    intro o ho
    rcases List.mem_cons.mp ho with rfl | ho
    · exact first
    · exact h.step o ho
  collected := by
    intro o ho handle samples hfetch
    rcases List.mem_cons.mp ho with rfl | ho
    · exact first.results_of_fetch hfetch
    · exact h.collected o ho handle samples hfetch
  stops := by
    intro o ho e
    cases polled with
    | nil => cases ho
    | cons o' polled =>
      rw [List.dropLast_cons_cons] at ho
      rcases List.mem_cons.mp ho with rfl | ho
      · -- the run in front has not failed
        intro he
        cases he
      · exact h.stops o ho e
  error_iff := by
    intro e
    rw [h.error_iff e]
    simp
  all := by
    intro hok
    rw [List.length_cons, List.length_cons, h.all hok]

end UpToFirstFailure

/-- The steps of polling runs in order are polls up to the first failure. -/
theorem RunsStep.upToFirstFailure {runs after : List (CircuitRun R)} {calls : List Exchange}
    {answer : Except DispatchError Unit} (h : RunsStep runs calls answer after) :
    ∃ polled, UpToFirstFailure runs calls answer after polled := by
  induction h with
  | done => exact ⟨[], .nil⟩
  | next first _ ih =>
    obtain ⟨polled, hpolled⟩ := ih
    exact ⟨_, .cons first hpolled⟩
  | stop first => exact ⟨_, .singleton first⟩

/-- **One poll of a program**, whatever the service: the runs are polled up to the first that fails.
If none does, the program answers with the merged registers once all are there. -/
theorem polls_upToFirstFailure (service : TaskService σ) :
    Polls (fun program : ProgramRun M R => program.pollRegisters service.recorded)
      (fun program => program.pollRegisters service) fun program calls answer after =>
        ∃ outcome polled, UpToFirstFailure program.runs calls outcome after.runs polled ∧
          answer = outcome.map fun _ =>
            if after.isComplete = true then some after.mergedRegisters else none := by
  intro program w
  obtain ⟨calls, answer, after, w', hrecords, hstep⟩ := polls_program service program w
  refine ⟨calls, answer, after, w', hrecords, ?_⟩
  cases hstep with
  | polled hruns =>
    obtain ⟨polled, hpolled⟩ := hruns.upToFirstFailure
    exact ⟨_, polled, hpolled, rfl⟩
  | stopped hruns =>
    obtain ⟨polled, hpolled⟩ := hruns.upToFirstFailure
    exact ⟨_, polled, hpolled, rfl⟩

end ProgramRun

/-! ### Starving -/

/-- Whether the samples of a task are there for the asking, whatever the world. -/
def TaskService.Delivers (service : TaskService σ) (handle : TaskHandle) : Prop :=
  ∀ w, ((service.state handle).run.run w).1 = .ok .completed ∧
    ∃ samples, ((service.fetch handle).run.run w).1 = .ok samples

/-- A service at which the task `broken` has failed and all others are completed. -/
def TaskService.oneBroken : TaskService Unit where
  name := "one broken"
  submit := TaskService.offline.submit
  submitBatch := TaskService.offline.submitBatch
  state handle := return if handle.id = "broken" then .failed "calibration" else .completed
  fetch _ := return ⟨[[1]]⟩

/-- Two runs, the first of them of the broken task. -/
def ProgramRun.brokenFirst : ProgramRun Unit Nat :=
  ⟨(), [.remote ⟨"broken", none⟩ ⟨"ro", none, ∅, ∅⟩, .remote ⟨"done", none⟩ ⟨"ro", none, ∅, ∅⟩]⟩

/-- **Runs starve.** A poll of a program does not resolve every run whose samples are there for the
asking: not the one behind the run of the broken task. -/
theorem ProgramRun.runs_starve :
    ¬ ∀ (service : TaskService Unit) (program : ProgramRun Unit Nat) (w : Unit) (i : Nat)
      (run : CircuitRun Nat) (handle : TaskHandle), program.runs[i]? = some run →
      run.task = .remote handle → service.Delivers handle →
      ∃ after, ((program.pollRegisters service).run w).1.2.runs[i]? = some after ∧
        after.isResolved = true := by
  intro h
  have hdelivers : TaskService.oneBroken.Delivers ⟨"done", none⟩ := by
    intro w
    exact ⟨rfl, ⟨[[1]]⟩, rfl⟩
  obtain ⟨after, hafter, hresolved⟩ :=
    h TaskService.oneBroken brokenFirst () 1 _ _ rfl rfl hdelivers
  -- after the poll the second run is what it was
  have hkept : after = .remote ⟨"done", none⟩ ⟨"ro", none, ∅, ∅⟩ :=
    Option.some.inj (hafter.symm.trans rfl)
  rw [hkept] at hresolved
  cases hresolved

end CircuitDispatch
