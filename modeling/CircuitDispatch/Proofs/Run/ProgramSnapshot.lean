import CircuitDispatch.Proofs.Run.ProgramPolling
import CircuitDispatch.Proofs.Run.Snapshot

/-!
# Snapshots of measurements

The snapshot of a measurement's run holds the measurement as a text of its own, beside the
records of the runs. The runs of a submitted measurement are storable at any time
(`ProgramRun.Reached.storable`), so all depends on the measurement: the snapshot is read back as it
was if `ClassicalRegister.isRestorable` holds of the measurement, and is refused if not
(`programSnapshot_eq`).

It does not hold of a measurement with a mapping of qubits. Such a measurement can be submitted
and polled, but its run cannot be taken up again (`programSnapshot_refused`).
-/

namespace CircuitDispatch

open Json

variable {R M σ τ : Type}

/-! ### Measurements -/

namespace ClassicalRegister

/-- All operations of a measurement. -/
def operations (m : ClassicalRegister R) : List (Operation R) :=
  (m.constantCircuit.toList ++ m.circuits).flatMap Circuit.operations

/-- Whether a measurement is read back from its layout. -/
def isRestorable (m : ClassicalRegister Float) : Bool :=
  m.constantCircuit.all Circuit.isRestorable && m.circuits.all Circuit.isRestorable

/-- What the text of a measurement needs to read back: the angles of its operations stand inside of
an operation, a circuit, a list of circuits and the measurement. -/
def HasText (m : ClassicalRegister Float) : Prop :=
  ∀ op ∈ m.operations, op.HasText (depthLimit - 4)

/-- **Measurements** are read back if their circuits are. -/
theorem restores : Restores ofJson? toJson isRestorable := by
  intro m
  have hconstant := Circuit.restores.option (by intro _ h; cases h) m.constantCircuit
  have hcircuits := Circuit.restores.list m.circuits
  have hfields : m.toJson.fields? ["constant_circuit", "circuits"] = some [.given _, .given _] :=
    fields?_object (by simp)
  rw [ofJson?, hfields]
  simp [hconstant, hcircuits, isRestorable, ite_and]

/-- **The text of a measurement** reads back. -/
theorem printable {m : ClassicalRegister Float} (h : m.HasText) :
    Printable depthLimit m.toJson := by
  have hcircuit : ∀ c ∈ m.constantCircuit.toList ++ m.circuits, Printable 125 c.toJson :=
    fun c hc => Circuit.printable fun op hop => h op (List.mem_flatMap.mpr ⟨c, hc, hop⟩)
  refine .object fun member hmember => ?_
  simp only [List.mem_cons, List.not_mem_nil, or_false] at hmember
  rcases hmember with rfl | rfl
  · refine .ofOption fun c hc => (hcircuit c ?_).mono (by decide)
    exact List.mem_append_left _ (Option.mem_toList.mpr hc)
  · exact .ofList fun c hc => hcircuit c (List.mem_append_right _ hc)

/-- The text of a measurement without constants depends on its numbers and its depth alone. -/
theorem hasText_of_symbolic {m : ClassicalRegister Float}
    (h : ∀ op ∈ m.operations, (∀ n ∈ op.numbers, n < 2 ^ 64) ∧
      ∀ a ∈ op.angles, a.nesting ≤ depthLimit - 4 ∧ a.constants.length = 0) : m.HasText := by
  intro op hop
  obtain ⟨hwords, hangles⟩ := h op hop
  refine ⟨hwords, fun a ha => (hangles a ha).1, fun a ha v hv => ?_⟩
  rw [List.eq_nil_of_length_eq_zero (hangles a ha).2] at hv
  cases hv

/-- The numbers of the submitted circuits are those of the measurement. -/
theorem HasText.fitsWords {m : ClassicalRegister Float} (h : m.HasText) :
    ∀ c ∈ Measurement.submittedCircuits m, c.FitsWords := by
  have hparts : ∀ c ∈ m.constantCircuit.toList ++ m.circuits, c.FitsWords :=
    fun c hc op hop => (h op (List.mem_flatMap.mpr ⟨c, hc, hop⟩)).words
  obtain ⟨constant, circuits⟩ := m
  cases constant with
  | none => exact hparts
  | some constant =>
    obtain ⟨hconstant, hcircuits⟩ := List.forall_mem_cons.mp hparts
    intro c hc op hop
    obtain ⟨rest, hrest, rfl⟩ := List.mem_map.mp hc
    rcases List.mem_append.mp hop with hop | hop
    · exact hconstant op hop
    · exact hcircuits rest hrest op hop

/-- A payload is read back as the measurement, or is refused. -/
theorem ofPayload_payload {m : ClassicalRegister Float} (h : m.HasText) :
    ofPayload .classicalRegister m.toJson.render
      = if m.isRestorable then .ok m else .error .serialization := by
  rw [ofPayload, parse?_render (printable h), Option.bind_some, restores m]
  by_cases hm : m.isRestorable = true
  · rw [if_pos hm, if_pos hm]
    rfl
  · rw [if_neg hm, if_neg hm]
    rfl

end ClassicalRegister

/-! ### Runs of measurements -/

/-- Storable runs are read back from their records. -/
theorem CircuitRun.mapM_ofRecord {runs : List (CircuitRun R)} (h : ∀ run ∈ runs, run.Storable) :
    (runs.map toRecord).mapM ofRecord = .ok runs := by
  refine mapM_eq_ok_iff.mpr (List.forall₂_map_left_iff.mpr ?_)
  exact List.forall₂_same.mpr fun run hrun => ofRecord_toRecord (h run hrun).resultsOnSite

namespace ProgramRun

theorem printable {program : ProgramRun (ClassicalRegister Float) Float}
    (h : ∀ run ∈ program.runs, run.Storable) : Printable 7 program.toRecord.toJson := by
  refine .object fun member hmember => ?_
  simp only [List.mem_cons, List.not_mem_nil, or_false] at hmember
  rcases hmember with rfl | rfl | rfl
  · exact .string
  · exact .string
  · refine .ofList fun r hr => ?_
    obtain ⟨run, hrun, rfl⟩ := List.mem_map.mp hr
    exact (h run hrun).printable 0

/-- **The snapshot of storable runs** is read back if the measurement is. -/
theorem load_save {program : ProgramRun (ClassicalRegister Float) Float}
    (hruns : ∀ run ∈ program.runs, run.Storable) (htext : program.measurement.HasText) :
    load program.save = if program.measurement.isRestorable then .ok program
      else .error (.service .serialization) := by
  have hfinite : program.toRecord.runs.all CircuitRecord.isFinite = true := by
    refine List.all_eq_true.mpr fun r hr => ?_
    obtain ⟨run, hrun, rfl⟩ := List.mem_map.mp hr
    exact (hruns run hrun).isFinite
  have hparse : parse? program.save = some program.toRecord.toJson :=
    parse?_render ((printable hruns).mono (by decide))
  have hread : readLayout ProgramRecord.ofJson? program.save = .ok program.toRecord := by
    rw [readLayout, hparse, Option.bind_some, ProgramRecord.restores, if_pos hfinite]
  have hpayload : Measurement.ofPayload program.toRecord.kind program.toRecord.payload
      = if program.measurement.isRestorable then .ok program.measurement
        else .error .serialization :=
    ClassicalRegister.ofPayload_payload htext
  have hrecords : program.toRecord.runs.mapM CircuitRun.ofRecord = .ok program.runs :=
    CircuitRun.mapM_ofRecord hruns
  have hload : load program.save
      = ofRecord (M := ClassicalRegister Float) program.toRecord := by
    rw [load, hread]
    rfl
  rw [hload, ofRecord, hpayload, hrecords]
  split
  · rfl
  · rfl

/-! ### Submitted measurements -/

/-- The runs of a measurement that a backend submitted, at any time. -/
inductive Reached [Scalar R] [Measurement M R] (b : Backend R σ) (m : M) : ProgramRun M R → Prop
    where
  | submitted {w : σ} {program : ProgramRun M R}
      (h : ((b.submitMeasurement m).run.run w).1 = .ok program) : Reached b m program
  | polledRegisters {τ : Type} {program : ProgramRun M R} (h : Reached b m program)
      (service : TaskService τ) (w : τ) :
    Reached b m ((program.pollRegisters service).run w).1.2
  | polled {τ : Type} {program : ProgramRun M R} (h : Reached b m program)
      (service : TaskService τ) (w : τ) : Reached b m ((program.poll service).run w).1.2

/-- A poll for the outcome is a poll for the registers. -/
theorem poll_snd [Measurement M R] (service : TaskService τ) (program : ProgramRun M R) (w : τ) :
    ((program.poll service).run w).1.2 = ((program.pollRegisters service).run w).1.2 := by
  unfold poll
  rw [StateT.run_bind]
  rcases (program.pollRegisters service).run w with ⟨⟨answer | answer, after⟩, w'⟩
  · rfl
  · cases answer with
    | none => rfl
    | some registers => rfl

/-- Polls in order keep runs storable. -/
theorem RunsStep.storable {runs after : List (CircuitRun R)} {calls : List Exchange}
    {answer : Except DispatchError Unit} (h : RunsStep runs calls answer after)
    (hruns : ∀ run ∈ runs, run.Storable) : ∀ run ∈ after, run.Storable := by
  induction h with
  | done => exact hruns
  | next first _ ih =>
    obtain ⟨hrun, hrest⟩ := List.forall_mem_cons.mp hruns
    exact List.forall_mem_cons.mpr ⟨hrun.step first, ih hrest⟩
  | stop first =>
    obtain ⟨hrun, hrest⟩ := List.forall_mem_cons.mp hruns
    exact List.forall_mem_cons.mpr ⟨hrun.step first, hrest⟩

/-- A poll keeps the measurement, and the runs storable. -/
theorem storable_pollRegisters {program : ProgramRun M R} (h : ∀ run ∈ program.runs, run.Storable)
    (service : TaskService τ) (w : τ) :
    let after := ((program.pollRegisters service).run w).1.2
    after.measurement = program.measurement ∧ ∀ run ∈ after.runs, run.Storable := by
  obtain ⟨calls, answer, after, w', hrecords, hstep⟩ := polls_program service program w
  rw [hrecords.plain_eq]
  cases hstep with
  | polled hruns hmeasurement => exact ⟨hmeasurement, hruns.storable h⟩
  | stopped hruns hmeasurement => exact ⟨hmeasurement, hruns.storable h⟩

/-- The runs of a submitted measurement are storable. -/
theorem hands_submitMeasurement [Scalar R] [Measurement M R] (b : Backend R σ) (m : M)
    (hwords : ∀ c ∈ Measurement.submittedCircuits m, c.FitsWords) :
    Hands (b.watched.submitMeasurement m) (b.submitMeasurement m) fun _ answer =>
      ∀ program, answer = .ok program →
        program.measurement = m ∧ ∀ run ∈ program.runs, run.Storable := by
  refine (b.hands_submitAll (Measurement.submittedCircuits m)).bind ?_ ?_
  · intro handed runs hstep
    refine Hands.pure ?_
    rintro _ ⟨⟩
    refine ⟨rfl, ?_⟩
    cases hstep with
    | @planned device items _ _ _ hplans hmany =>
      obtain ⟨hcircuits, hmake⟩ := Backend.of_planAll hplans
      refine hmany.storable fun item hitem => ?_
      refine Plan.storable_of_make (hmake item hitem) (hwords item.1 ?_)
      rw [← hcircuits]
      exact List.mem_map_of_mem hitem
  · rintro handed e - _ ⟨⟩

/-- **The runs of a submitted measurement are storable** at any time. -/
theorem Reached.storable [Scalar R] [Measurement M R] {b : Backend R σ} {m : M}
    {program : ProgramRun M R} (h : Reached b m program)
    (hwords : ∀ c ∈ Measurement.submittedCircuits m, c.FitsWords) :
    program.measurement = m ∧ ∀ run ∈ program.runs, run.Storable := by
  induction h with
  | @submitted w _ h => exact (hands_submitMeasurement b m hwords).step_handed w _ h
  | polledRegisters _ service w ih =>
    obtain ⟨hmeasurement, hruns⟩ := storable_pollRegisters ih.2 service w
    exact ⟨hmeasurement.trans ih.1, hruns⟩
  | polled _ service w ih =>
    obtain ⟨hmeasurement, hruns⟩ := storable_pollRegisters ih.2 service w
    rw [poll_snd]
    exact ⟨hmeasurement.trans ih.1, hruns⟩

end ProgramRun

/-! ### Snapshots of submitted measurements -/

/-- **The snapshot of a submitted measurement** is read back as it was, whatever became of its runs,
if all constants of the measurement are finite and no qubits are mapped. It is refused if not. -/
theorem programSnapshot_eq {b : Backend Float σ} {m : ClassicalRegister Float}
    {program : ProgramRun (ClassicalRegister Float) Float}
    (hreached : ProgramRun.Reached b m program) (htext : m.HasText) :
    ProgramRun.load program.save
      = if m.isRestorable then .ok program else .error (.service .serialization) := by
  obtain ⟨rfl, hruns⟩ := hreached.storable htext.fitsWords
  exact ProgramRun.load_save hruns htext

/-- A backend that submits programs for a managed simulator one by one. -/
def Backend.simulated : Backend Float Nat := .accepting (Config.forDevice "sv1")

/-- A rotation in front of two circuits, one of which has a static bit. -/
def rotatedPrograms : ProgramRun (ClassicalRegister Float) Float :=
  let constant : Circuit Float := ⟨[.single (.rotateX .pi) 0]⟩
  let first : Circuit Float := ⟨[.measure 0 "ro" 0]⟩
  let second : Circuit Float := ⟨[.inputBit "ro" 1 true, .measure 0 "ro" 0]⟩
  ⟨⟨some constant, [first, second]⟩, [.remote ⟨"0", none⟩ (.ofCircuit (constant ++ first) "ro"),
    .remote ⟨"1", none⟩ (.ofCircuit (constant ++ second) "ro")]⟩

/-- A measurement whose second circuit is resolved before the first one. -/
theorem programSnapshot_eq_halfResolved :
    let service := TaskService.afterQuestions fun _ => ⟨[[1]]⟩
    let after := ((rotatedPrograms.pollRegisters service).run 1).1.2
    ((Backend.simulated.submitMeasurement rotatedPrograms.measurement).run.run 0).1
        = .ok rotatedPrograms ∧
      after.runs.map CircuitRun.isResolved = [false, true] ∧
      ProgramRun.load after.save = .ok after := by
  intro service after
  have htext : rotatedPrograms.measurement.HasText :=
    ClassicalRegister.hasText_of_symbolic (by decide)
  have hsubmitted : ((Backend.simulated.submitMeasurement rotatedPrograms.measurement).run.run 0).1
      = .ok rotatedPrograms := by rfl
  have hreached : ProgramRun.Reached Backend.simulated rotatedPrograms.measurement after :=
    .polledRegisters (.submitted hsubmitted) service 1
  exact ⟨hsubmitted, rfl, programSnapshot_eq hreached htext⟩

/-- A circuit that is measured with its qubits mapped. -/
def mappedProgram : ProgramRun (ClassicalRegister Float) Float :=
  let c : Circuit Float := ⟨[.repeatMeasurement "ro" 1 (some (.ofList [(0, 0)]))]⟩
  ⟨⟨none, [c]⟩, [.remote ⟨"0", none⟩ (.ofCircuit c "ro")]⟩

/-- **A measurement that maps qubits** is submitted, and refused when it is taken up again. -/
theorem programSnapshot_refused :
    ¬ ∀ (b : Backend Float Nat) (m : ClassicalRegister Float)
      (program : ProgramRun (ClassicalRegister Float) Float),
      m.HasText → ProgramRun.Reached b m program → ProgramRun.load program.save = .ok program := by
  intro h
  have htext : mappedProgram.measurement.HasText :=
    ClassicalRegister.hasText_of_symbolic (by decide)
  have hsubmitted : ((Backend.simulated.submitMeasurement mappedProgram.measurement).run.run 0).1
      = .ok mappedProgram := by rfl
  have hreached : ProgramRun.Reached Backend.simulated mappedProgram.measurement mappedProgram :=
    .submitted hsubmitted
  have hload := h Backend.simulated mappedProgram.measurement mappedProgram htext hreached
  rw [ProgramRun.load_save (hreached.storable htext.fitsWords).2 htext] at hload
  cases hload

end CircuitDispatch
