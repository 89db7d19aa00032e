import CircuitDispatch.Proofs.Json.Front
import CircuitDispatch.Proofs.Run.ProgramSnapshot

/-!
# A run keeps its task

`CircuitRun.Follows handle` holds of every run that started as the task of a handle, however often
it was polled or taken up again from a snapshot, its own or that of a program that it belongs to.
Such a run still is the run of that task, with the region that the handle recorded
(`CircuitRun.Follows.task_eq`).

Nothing is asked of the metadata and the results: in a snapshot the task stands in front of them,
so it is read as it was written even if they are not (`CircuitRun.task_of_load_save`).
-/

namespace CircuitDispatch

open Json

variable {R M σ : Type}

/-! ### Records -/

namespace CircuitRecord

/-- The members of a record that say whose run it is. -/
def taskMembers (r : CircuitRecord R) : List (String × Json) :=
  [("kind", r.kind.toJson), ("task_identity", ofOption .string r.taskIdentity),
    ("region_or_locator", ofOption .string r.region)]

/-- The task of a record is read as it was written, whatever else the text says. -/
theorem task_of_ofJson? {r r' : CircuitRecord Float} {others : List (String × Json)}
    (h : ofJson? (.object (r.taskMembers ++ others)) = some r') :
    r'.kind = r.kind ∧ r'.taskIdentity = r.taskIdentity ∧ r'.region = r.region := by
  rw [ofJson?] at h
  obtain ⟨fields, hfields, h⟩ := Option.bind_eq_some_iff.mp h
  have hfront : r.taskMembers ⊆ r.taskMembers ++ others := List.subset_append_left _ others
  obtain ⟨fields, -, rfl⟩ := fields?_append hfront hfields
  have hkind := RunKind.restores r.kind
  have htask := restores_optionalText r.taskIdentity
  have hregion := restores_optionalText r.region
  -- the two other fields may be read as anything
  rcases fields with _ | ⟨metadata, _ | ⟨results, _ | _⟩⟩
  case cons.cons.nil =>
    simp only [taskMembers, List.map_cons, List.map_nil, List.cons_append, List.nil_append,
      required?_given, withDefault?_given, hkind, htask, hregion, if_true, Option.bind_eq_bind,
      Option.bind_some, Option.pure_def] at h
    obtain ⟨m, -, h⟩ := Option.bind_eq_some_iff.mp h
    obtain ⟨results, -, h⟩ := Option.bind_eq_some_iff.mp h
    cases h
    exact ⟨rfl, rfl, rfl⟩
  all_goals cases h

end CircuitRecord

/-- A text that is read holds a value of the layout. -/
theorem readLayout_eq_ok_iff {α : Type} {read : Json → Option α} {text : String} {a : α} :
    readLayout read text = .ok a ↔ ∃ j, parse? text = some j ∧ read j = some a := by
  rw [← Option.bind_eq_some_iff, readLayout]
  cases (parse? text).bind read with
  | none => simp only [reduceCtorEq]
  | some b => rw [Except.ok.injEq, Option.some.injEq]

namespace CircuitRun

/-- A run of a record is the run of the task that the record names. -/
theorem task_of_ofRecord {run run' : CircuitRun R} {r : CircuitRecord R}
    (htask : r.kind = run.toRecord.kind ∧ r.taskIdentity = run.toRecord.taskIdentity ∧
      r.region = run.toRecord.region) (h : ofRecord r = .ok run') : run'.task = run.task := by
  obtain ⟨kind, identity, region, metadata, results⟩ := r
  obtain ⟨task, metadata', results'⟩ := run
  cases task with
  | onSite id =>
    obtain ⟨rfl, rfl, -⟩ := htask
    cases results with
    | none => cases h
    | some results =>
      cases h
      rfl
  | remote handle =>
    obtain ⟨rfl, rfl, rfl⟩ := htask
    cases h
    rfl

/-- **A run that is read from a snapshot** is the run of the same task. -/
theorem task_of_load_save {run run' : CircuitRun Float} (h : load run.save = .ok run') :
    run'.task = run.task := by
  obtain ⟨r, hr, hrun⟩ := bind_eq_ok_iff.mp h
  obtain ⟨j, hparse, hread⟩ := readLayout_eq_ok_iff.mp hr
  have htext : ∀ m ∈ run.toRecord.taskMembers, ReadAs (depthLimit - 1) m.2 := by
    intro m hm
    simp only [CircuitRecord.taskMembers, List.mem_cons, List.not_mem_nil, or_false] at hm
    rcases hm with rfl | rfl | rfl
    · exact (RunKind.printable _).readAs
    · exact (Printable.ofOption fun _ _ => .string).readAs
    · exact (Printable.ofOption fun _ _ => .string).readAs
  -- the metadata and the results stand behind the task
  have hback : [("metadata", run.toRecord.metadata.toJson),
      ("resolved_results", ofOption Registers.toJson run.toRecord.results)] ≠ [] := by simp
  rcases object_of_parse? hback htext hparse with rfl | ⟨others, rfl⟩
  · cases hread
  · exact task_of_ofRecord (CircuitRecord.task_of_ofJson? hread) hrun

/-- Runs that are taken up together are the runs of the same tasks. -/
theorem tasks_of_mapM_ofRecord {runs runs' : List (CircuitRun R)}
    (h : (runs.map toRecord).mapM ofRecord = .ok runs') : runs'.map task = runs.map task := by
  have hall := List.forall₂_map_left_iff.mp (mapM_eq_ok_iff.mp h)
  clear h
  induction hall with
  | nil => rfl
  | cons hrun _ ih =>
    rw [List.map_cons, List.map_cons, task_of_ofRecord ⟨rfl, rfl, rfl⟩ hrun, ih]

end CircuitRun

/-! ### Programs -/

namespace ProgramRun

/-- The runs of a program are taken up from its record as the runs of the same tasks. -/
theorem tasks_of_ofRecord [Measurement M R] {program program' : ProgramRun M R}
    (h : ofRecord program.toRecord = .ok program') :
    program'.runs.map CircuitRun.task = program.runs.map CircuitRun.task := by
  obtain ⟨measurement, -, h⟩ := bind_eq_ok_iff.mp h
  obtain ⟨runs, hruns, h⟩ := bind_eq_ok_iff.mp h
  cases h
  exact CircuitRun.tasks_of_mapM_ofRecord hruns

/-- A program is taken up from its snapshot as from its record, if the numbers in the snapshot have
texts that read back. -/
theorem ofRecord_of_load_save [Measurement M Float] {program program' : ProgramRun M Float}
    (hprintable : Printable depthLimit program.toRecord.toJson)
    (h : load program.save = .ok program') : ofRecord program.toRecord = .ok program' := by
  obtain ⟨r, hr, hprogram⟩ := bind_eq_ok_iff.mp h
  obtain ⟨j, hparse, hread⟩ := readLayout_eq_ok_iff.mp hr
  obtain rfl := Option.some.inj ((parse?_render hprintable).symm.trans hparse)
  rw [ProgramRecord.restores] at hread
  obtain ⟨-, hread⟩ := Option.ite_none_right_eq_some.mp hread
  obtain rfl := Option.some.inj hread
  exact hprogram

end ProgramRun

/-! ### Runs of a task -/

namespace CircuitRun

/-- The runs of a task: as one starts, after a poll, or taken up again from a record or a snapshot,
be it its own or that of a program. -/
inductive Follows (handle : TaskHandle) : CircuitRun Float → Prop where
  | started (metadata : CircuitMetadata Float) : Follows handle (remote handle metadata)
  | polled {τ : Type} {run : CircuitRun Float} (h : Follows handle run) (service : TaskService τ)
      (w : τ) : Follows handle ((run.poll service).run w).1.2
  | recorded {run run' : CircuitRun Float} (h : Follows handle run)
      (hrecord : ofRecord run.toRecord = .ok run') : Follows handle run'
  | reloaded {run run' : CircuitRun Float} (h : Follows handle run)
      (hload : load run.save = .ok run') : Follows handle run'
  | recordedTogether {M : Type} [Measurement M Float] {program program' : ProgramRun M Float}
      {run run' : CircuitRun Float} {i : Nat} (h : Follows handle run)
      (hrun : program.runs[i]? = some run)
      (hrecord : ProgramRun.ofRecord program.toRecord = .ok program')
      (hrun' : program'.runs[i]? = some run') : Follows handle run'
  | reloadedTogether {M : Type} [Measurement M Float] {program program' : ProgramRun M Float}
      {run run' : CircuitRun Float} {i : Nat} (h : Follows handle run)
      (hrun : program.runs[i]? = some run)
      (hprintable : Printable depthLimit program.toRecord.toJson)
      (hload : ProgramRun.load program.save = .ok program')
      (hrun' : program'.runs[i]? = some run') : Follows handle run'

/-- Runs at one place of programs with the same tasks have the same task. -/
private theorem task_eq_of_getElem? {runs runs' : List (CircuitRun R)} {run run' : CircuitRun R}
    {i : Nat} (h : runs'.map task = runs.map task) (hrun : runs[i]? = some run)
    (hrun' : runs'[i]? = some run') : run'.task = run.task := by
  have htask := congrArg (fun tasks => tasks[i]?) h
  simp only [List.getElem?_map, hrun, hrun', Option.map_some, Option.some.injEq] at htask
  exact htask

/-- **A run keeps its task**, whatever becomes of it. -/
theorem Follows.task_eq {handle : TaskHandle} {run : CircuitRun Float} (h : Follows handle run) :
    run.task = .remote handle := by
  induction h with
  | started metadata => rfl
  | @polled τ run h service w ih =>
    obtain ⟨calls, answer, after, w', hrecords, hstep⟩ := polls_circuit service run w
    rw [hrecords.plain_eq]
    exact hstep.task_metadata_eq.1.trans ih
  | recorded h hrecord ih => exact (task_of_ofRecord ⟨rfl, rfl, rfl⟩ hrecord).trans ih
  | reloaded h hload ih => exact (task_of_load_save hload).trans ih
  | recordedTogether h hrun hrecord hrun' ih =>
    exact (task_eq_of_getElem? (ProgramRun.tasks_of_ofRecord hrecord) hrun hrun').trans ih
  | reloadedTogether h hrun hprintable hload hrun' ih =>
    have hrecord := ProgramRun.ofRecord_of_load_save hprintable hload
    exact (task_eq_of_getElem? (ProgramRun.tasks_of_ofRecord hrecord) hrun hrun').trans ih

end CircuitRun

end CircuitDispatch
