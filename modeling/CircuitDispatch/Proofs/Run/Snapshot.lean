import CircuitDispatch.Proofs.Circuit.Layout
import CircuitDispatch.Proofs.Dispatch.Submission
import CircuitDispatch.Proofs.Plan.Padding
import CircuitDispatch.Proofs.Run.CircuitPolling
import CircuitDispatch.Proofs.Run.Records

/-!
# Snapshots are transparent

The run of a submitted circuit can be written as a text and taken up again from it at any time.
`CircuitRun.Storable` says what that needs of a run: its registers of numbers have no rows, which
holds of all that this library makes, and its static bits fit into a machine word. A storable run
is read back from its snapshot as it was (`CircuitRun.load_save`). Runs are storable when they are
submitted (`CircuitRun.Submitted.storable`), and polls keep them so (`CircuitRun.Storable.step`).

Hence a history of polls in which the run is replaced, wherever one likes, by what is read back
from its snapshot is the same as the history without this (`snapshots_transparent`).
-/

namespace CircuitDispatch

open Json

variable {R ρ α σ τ : Type}

/-! ### Parts of a run -/

/-- Whether no register has rows. -/
def RegisterMap.Vacant {Value : Type} (m : RegisterMap Value) : Prop := ∀ e ∈ m.entries, e.2 = []

namespace RegisterMap

variable {Value : Type} {m : RegisterMap Value}

theorem Vacant.allValues (h : m.Vacant) (keep : Value → Bool) : m.allValues keep = true := by
  refine List.all_eq_true.mpr fun e he => ?_
  rw [h e he]
  rfl

theorem Vacant.printable (h : m.Vacant) (depth : Nat) (write : Value → Json) :
    Printable (depth + 2) (m.toJson write) := by
  refine .ofMap fun e he => .ofList fun row hrow => ?_
  rw [h e he] at hrow
  cases hrow

/-- Output registers have no rows before there are results. -/
theorem vacant_emptyRegisters (names : List String) :
    (CircuitMetadata.emptyRegisters names : RegisterMap Value).Vacant := by
  -- the registers are written one by one, into maps that are vacant already
  have hfoldl : ∀ (l : List (String × List (List Value))) (start : RegisterMap Value),
      start.Vacant → (∀ e ∈ l, e.2 = []) →
      Vacant (l.foldl (fun acc e => acc.insert e.1 e.2) start) := by
    intro l
    induction l with
    | nil => exact fun _ hstart _ => hstart
    | cons e l ih =>
      intro start hstart hl
      refine ih _ (fun e' he' => ?_) fun e' he' => hl e' (List.mem_cons_of_mem _ he')
      rcases SortedList.mem_of_mem_insertBy he' with rfl | he'
      · exact hl e List.mem_cons_self
      · exact hstart e' he'
  refine hfoldl _ ∅ (fun e he => ?_) fun e he => ?_
  · cases he
  · obtain ⟨name, -, rfl⟩ := List.mem_map.mp he
    rfl

theorem printable_bits (depth : Nat) (m : RegisterMap Bool) :
    Printable (depth + 3) (m.toJson .bool) :=
  .ofMap fun _ _ => .ofList fun _ _ => .ofList fun _ _ => .bool

end RegisterMap

/-- Registers without rows of numbers. -/
structure Registers.Storable (r : Registers R) : Prop where
  float : r.float.Vacant
  complex : r.complex.Vacant

namespace Registers.Storable

variable {r : Registers Float}

theorem isFinite (h : r.Storable) : r.isFinite = true := by
  rw [Registers.isFinite, h.float.allValues, h.complex.allValues]
  rfl

theorem printable (h : r.Storable) (depth : Nat) : Printable (depth + 4) r.toJson := by
  refine .object fun m hm => ?_
  simp only [List.mem_cons, List.not_mem_nil, or_false] at hm
  rcases hm with rfl | rfl | rfl
  · exact RegisterMap.printable_bits depth r.bit
  · exact h.float.printable (depth + 1) _
  · exact h.complex.printable (depth + 1) _

end Registers.Storable

theorem StaticBits.printable {bits : StaticBits} (h : bits.registerLength < 2 ^ 64) (depth : Nat) :
    Printable (depth + 2) bits.toJson := by
  refine .object fun m hm => ?_
  simp only [List.mem_cons, List.not_mem_nil, or_false] at hm
  rcases hm with rfl | rfl
  · exact .natural h
  · exact .ofList fun _ _ => .bool

/-- Metadata whose output registers have no rows and whose static bits fit into a machine word. -/
structure CircuitMetadata.Storable (m : CircuitMetadata R) : Prop where
  float : m.floatRegisters.Vacant
  complex : m.complexRegisters.Vacant
  fits : ∀ bits ∈ m.staticBits, bits.registerLength < 2 ^ 64

namespace CircuitMetadata.Storable

theorem isFinite {m : CircuitMetadata Float} (h : m.Storable) : m.isFinite = true := by
  rw [CircuitMetadata.isFinite, h.float.allValues, h.complex.allValues]
  rfl

theorem printable {m : CircuitMetadata Float} (h : m.Storable) (depth : Nat) :
    Printable (depth + 3) m.toJson := by
  have hfloat := h.float.printable depth .ofFloat
  have hcomplex := h.complex.printable depth complexToJson
  have hfits := h.fits
  refine .object fun member hmember => ?_
  cases hbits : m.staticBits with
  | none =>
    simp only [hbits, List.append_nil, List.cons_append, List.nil_append, List.mem_cons,
      List.not_mem_nil, or_false] at hmember
    rcases hmember with rfl | rfl | rfl
    · exact .string
    · exact hfloat
    · exact hcomplex
  | some bits =>
    simp only [hbits, List.cons_append, List.nil_append, List.mem_cons, List.not_mem_nil,
      or_false] at hmember
    rcases hmember with rfl | rfl | rfl | rfl
    · exact .string
    · exact StaticBits.printable (h.fits bits hbits) depth
    · exact hfloat
    · exact hcomplex

/-- The results that are made with the metadata have no rows of numbers either. -/
theorem assemble {m : CircuitMetadata R} (h : m.Storable) (samples : Samples) :
    (m.assemble samples).Storable :=
  ⟨h.float, h.complex⟩

end CircuitMetadata.Storable

/-- **The metadata of a circuit** whose numbers fit into machine words. -/
theorem CircuitMetadata.storable_ofCircuit {c : Circuit R} (hwords : c.FitsWords)
    (readout : String) : (CircuitMetadata.ofCircuit c readout).Storable where
  float := RegisterMap.vacant_emptyRegisters _
  complex := RegisterMap.vacant_emptyRegisters _
  fits bits hbits := by
    -- the length is the declared one, or one more than a position that is set
    rcases (CircuitMetadata.staticLength_of_staticBits hbits).greatest.1 with
      hlength | ⟨index, value, hop, hlength⟩
    · obtain ⟨isOutput, hop⟩ := Circuit.exists_define_of_bitRegisterLength? hlength
      exact hwords _ hop _ (by simp [Operation.numbers])
    · rw [hlength]
      exact hwords _ hop (index + 1) (by simp [Operation.numbers])

/-- The metadata of a planned circuit whose numbers fit into machine words. -/
theorem Plan.storable_of_make [Scalar R] {config : Config} {c : Circuit R} {plan : Plan R}
    (h : Plan.make config c = .ok plan) (hwords : c.FitsWords) : plan.metadata.Storable := by
  obtain ⟨readout, family, -, -, -, -, hmetadata⟩ := Plan.of_make h
  rw [hmetadata]
  exact CircuitMetadata.storable_ofCircuit hwords readout

/-! ### Runs -/

theorem RunKind.printable {depth : Nat} (kind : RunKind) : Printable depth kind.toJson := by
  cases kind with
  | onSite => exact .string
  | remote => exact .string

namespace CircuitRun

/-- A run that is read back from its snapshot. -/
structure Storable (run : CircuitRun R) : Prop where
  metadata : run.metadata.Storable
  results : ∀ r ∈ run.results, r.Storable
  resultsOnSite : run.ResultsOnSite

/-- A run on site with results, and any remote run, is what its record says. -/
theorem ofRecord_toRecord {run : CircuitRun R} (h : run.ResultsOnSite) :
    ofRecord run.toRecord = .ok run := by
  obtain ⟨task, metadata, results⟩ := run
  cases task with
  | remote handle => rfl
  | onSite id =>
    cases results with
    | none => exact absurd rfl (h id rfl)
    | some results => rfl

/-- **Records that are no runs**: a run on site without results, and a remote run without a task. -/
theorem ofRecord_eq_error_iff {r : CircuitRecord R} : (∃ e, ofRecord r = .error e) ↔
    (r.kind = .onSite ∧ r.results = none) ∨ (r.kind = .remote ∧ r.taskIdentity = none) := by
  obtain ⟨kind, taskIdentity, region, metadata, results⟩ := r
  cases kind with
  | onSite => cases results <;> simp [ofRecord]
  | remote => cases taskIdentity <;> simp [ofRecord]

@[simp] theorem metadata_toRecord (run : CircuitRun R) : run.toRecord.metadata = run.metadata := by
  unfold toRecord
  split
  · rfl
  · rfl

@[simp] theorem results_toRecord (run : CircuitRun R) : run.toRecord.results = run.results := by
  unfold toRecord
  split
  · rfl
  · rfl

namespace Storable

variable {run : CircuitRun Float}

theorem isFinite (h : run.Storable) : run.toRecord.isFinite = true := by
  rw [CircuitRecord.isFinite, metadata_toRecord, results_toRecord, h.metadata.isFinite]
  cases hresults : run.results with
  | none => rfl
  | some r => exact (h.results r hresults).isFinite

theorem printable (h : run.Storable) (depth : Nat) : Printable (depth + 5) run.toRecord.toJson := by
  have htext : ∀ o : Option String, Printable (depth + 4) (ofOption .string o) := fun _ =>
    .ofOption fun _ _ => .string
  refine .object fun m hm => ?_
  simp only [metadata_toRecord, results_toRecord, List.mem_cons, List.not_mem_nil, or_false] at hm
  rcases hm with rfl | rfl | rfl | rfl | rfl
  · exact RunKind.printable _
  · exact htext _
  · exact htext _
  · exact h.metadata.printable (depth + 1)
  · exact .ofOption fun r hr => (h.results r hr).printable depth

end Storable

/-- **A storable run is read back** from its snapshot. -/
theorem load_save {run : CircuitRun Float} (h : run.Storable) : load run.save = .ok run := by
  have hparse : parse? run.save = some run.toRecord.toJson :=
    parse?_render ((h.printable 0).mono (by decide))
  have hread : readLayout CircuitRecord.ofJson? run.save = .ok run.toRecord := by
    rw [readLayout, hparse, Option.bind_some, CircuitRecord.restores, h.isFinite, if_pos rfl]
  rw [load, hread]
  exact ofRecord_toRecord h.resultsOnSite

/-- Polls keep a run storable. -/
theorem Storable.step {run after : CircuitRun R} {calls : List Exchange}
    {answer : Except DispatchError (Option (Registers R))} (h : run.Storable)
    (hstep : PollStep run calls answer after) : after.Storable := by
  refine ⟨?_, ?_, h.resultsOnSite.step hstep⟩
  · rw [hstep.task_metadata_eq.2]
    exact h.metadata
  · rcases hstep.unchanged_or_fetched with ⟨-, rfl⟩ | ⟨_, samples, -, -, -, rfl⟩
    · exact h.results
    · rintro _ ⟨⟩
      exact h.metadata.assemble samples

/-- A run is storable when it starts, if its metadata are. -/
theorem StartedAs.storable {run : CircuitRun R} {metadata : CircuitMetadata R} {device : Device}
    (h : run.StartedAs metadata device) (hmetadata : metadata.Storable) : run.Storable := by
  cases h with
  | onSite name id samples =>
    refine ⟨hmetadata, ?_, fun _ _ hnone => ?_⟩
    · rintro _ ⟨⟩
      exact hmetadata.assemble samples
    · cases hnone
  | remote arn simulator handle =>
    refine ⟨hmetadata, fun r hr => ?_, fun id htask => ?_⟩
    · cases hr
    · cases htask

end CircuitRun

/-! ### Submitted runs -/

/-- Runs are storable when they start, if the metadata of their plans are. -/
theorem Gateway.ManyStep.storable [Scalar R] {gateway : Gateway R σ} {batch : Bool}
    {device : Device} {items : List (Circuit R × Plan R)} {handed : List Handover}
    {runs : List (CircuitRun R)} (h : gateway.ManyStep batch device items handed (.ok runs))
    (hmetadata : ∀ item ∈ items, item.2.metadata.Storable) : ∀ run ∈ runs, run.Storable := by
  have hall := h.startedAs
  clear h
  induction hall with
  | nil =>
    intro run hrun
    cases hrun
  | cons hstarted _ ih =>
    obtain ⟨hfirst, hrest⟩ := List.forall_mem_cons.mp hmetadata
    exact List.forall_mem_cons.mpr ⟨hstarted.storable hfirst, ih hrest⟩

namespace CircuitRun

/-- The runs that a gateway makes of planned circuits, whose numbers fit into machine words. -/
inductive Submitted [Scalar R] (gateway : Gateway R σ) : CircuitRun R → Prop where
  | single {config : Config} {device : Device} {c : Circuit R} {plan : Plan R} {w : σ}
      {run : CircuitRun R} (hplan : Plan.make config c = .ok plan) (hwords : c.FitsWords)
      (hrun : ((gateway.submit device c plan).run.run w).1 = .ok run) : Submitted gateway run
  | batch {config : Config} {device : Device} {items : List (Circuit R × Plan R)} {w : σ}
      {runs : List (CircuitRun R)} {run : CircuitRun R}
      (hplans : ∀ item ∈ items, Plan.make config item.1 = .ok item.2 ∧ item.1.FitsWords)
      (hruns : ((gateway.submitBatch device items).run.run w).1 = .ok runs) (hrun : run ∈ runs) :
    Submitted gateway run

/-- **Submitted runs are storable.** -/
theorem Submitted.storable [Scalar R] {gateway : Gateway R σ} {run : CircuitRun R}
    (h : run.Submitted gateway) : run.Storable := by
  cases h with
  | @single config device c plan w _ hplan hwords hrun =>
    have hstep := (gateway.hands_submit device c plan).step_handed w
    rw [hrun] at hstep
    exact hstep.startedAs.storable (Plan.storable_of_make hplan hwords)
  | @batch config device items w runs _ hplans hruns hrun =>
    have hstep := (gateway.hands_submitBatch device items).step_handed w
    rw [hruns] at hstep
    refine hstep.storable (fun item hitem => ?_) run hrun
    obtain ⟨hplan, hwords⟩ := hplans item hitem
    exact Plan.storable_of_make hplan hwords

end CircuitRun

/-! ### Histories with snapshots -/

/-- Replaces a thing or leaves it as it is. -/
def replaceIf (replaced : Bool) (replace : ρ → Except DispatchError ρ) (run : ρ) :
    Except DispatchError ρ :=
  if replaced then replace run else .ok run

theorem replaceIf_eq {replace : ρ → Except DispatchError ρ} {run : ρ} (replaced : Bool)
    (h : replace run = .ok run) : replaceIf replaced replace run = .ok run := by
  unfold replaceIf
  split
  · exact h
  · rfl

/-- The polls of a thing against a recording service. Before each poll the world changes, and
where it is said so the thing is replaced. -/
def replacingHistory (poll : ρ → StateM (σ × List Exchange) (Polled ρ α))
    (replace : ρ → Except DispatchError ρ) :
    List ((σ → σ) × Bool) → ρ → σ → Except DispatchError (List (Observation ρ α))
  | [], _, _ => .ok []
  | (change, replaced) :: rest, run, w => do
    let run ← replaceIf replaced replace run
    let ((answer, after), (w, calls)) := (poll run).run (change w, [])
    return ⟨run, calls, answer, after⟩ :: (← replacingHistory poll replace rest after w)

theorem replacingHistory_cons {poll : ρ → StateM (σ × List Exchange) (Polled ρ α)}
    {replace : ρ → Except DispatchError ρ} {replaced : Bool} {run run' : ρ}
    (hrun : replaceIf replaced replace run = .ok run') (change : σ → σ)
    (rest : List ((σ → σ) × Bool)) (w : σ) :
    replacingHistory poll replace ((change, replaced) :: rest) run w =
      let seen := (poll run').run (change w, [])
      (replacingHistory poll replace rest seen.1.2 seen.2.1).bind fun others =>
        .ok (⟨run', seen.2.2, seen.1.1, seen.1.2⟩ :: others) := by
  rw [replacingHistory, hrun]
  rfl

/-- **Replacing a thing by itself does not show.** -/
theorem replacingHistory_eq {poll : ρ → StateM (σ × List Exchange) (Polled ρ α)}
    {replace : ρ → Except DispatchError ρ} {points : List ((σ → σ) × Bool)} {run : ρ} {w : σ}
    (h : ∀ o ∈ history poll (points.map (·.1)) run w, replace o.before = .ok o.before) :
    replacingHistory poll replace points run w = .ok (history poll (points.map (·.1)) run w) := by
  induction points generalizing run w with
  | nil => rfl
  | cons point points ih =>
    obtain ⟨change, replaced⟩ := point
    rw [List.map_cons, history_cons] at h
    obtain ⟨hrun, hrest⟩ := List.forall_mem_cons.mp h
    rw [List.map_cons, history_cons, replacingHistory_cons (replaceIf_eq replaced hrun)]
    simp only [ih hrest]
    rfl

/-- **Snapshots are transparent.** Whatever a submitted run goes through, it can be read back from
its snapshot at any time, and that does not show. No other records are refused than those of a run
on site without results and of a remote run without a task. -/
theorem snapshots_transparent {gateway : Gateway Float σ} {run : CircuitRun Float}
    (hsubmitted : run.Submitted gateway) (service : TaskService τ)
    (points : List ((τ → τ) × Bool)) (w : τ) :
    let poll := fun run : CircuitRun Float => run.poll service.recorded
    let seen := history poll (points.map (·.1)) run w
    CircuitRun.load run.save = .ok run ∧
      (∀ o ∈ seen, CircuitRun.load o.before.save = .ok o.before ∧
        CircuitRun.load o.after.save = .ok o.after) ∧
      replacingHistory poll (fun run => CircuitRun.load run.save) points run w = .ok seen ∧
      ∀ r : CircuitRecord Float, (∃ e, CircuitRun.ofRecord r = .error e) ↔
        (r.kind = .onSite ∧ r.results = none) ∨ (r.kind = .remote ∧ r.taskIdentity = none) := by
  intro poll seen
  have hstorable := hsubmitted.storable
  have htrace := trace_history (CircuitRun.polls_circuit service) (points.map (·.1)) run w
  have hseen : ∀ o ∈ seen, CircuitRun.load o.before.save = .ok o.before ∧
      CircuitRun.load o.after.save = .ok o.after := by
    intro o ho
    obtain ⟨hbefore, hstep⟩ := htrace.invariant hstorable CircuitRun.Storable.step o ho
    exact ⟨CircuitRun.load_save hbefore, CircuitRun.load_save (hbefore.step hstep)⟩
  refine ⟨CircuitRun.load_save hstorable, hseen, ?_, fun r => CircuitRun.ofRecord_eq_error_iff⟩
  exact replacingHistory_eq fun o ho => (hseen o ho).1

/-- A submitted run that is replaced before it is resolved, and once more afterwards. -/
theorem snapshots_transparent_replacedTwice :
    let c : Circuit Float := ⟨[.define .float "x" 2 true, .inputBit "ro" 1 true, .measure 0 "ro" 0]⟩
    let run : CircuitRun Float := .remote ⟨"0", none⟩ (.ofCircuit c "ro")
    let service := TaskService.afterQuestions fun _ => ⟨[[1]]⟩
    let points := [(id, false), (id, true), (id, true)]
    let seen := history (fun run : CircuitRun Float => run.poll service.recorded)
      (points.map (·.1)) run 1
    replacingHistory (fun run : CircuitRun Float => run.poll service.recorded)
        (fun run => CircuitRun.load run.save) points run 1 = .ok seen ∧
      seen.map (fun o => o.before.isResolved) = [false, false, true] := by
  intro c run service points seen
  let plan : Plan Float :=
    ⟨.verbatim ⟨.ionq, [], .ofList [(0, 0)], [0], PhaseLedger.empty.residuals⟩, 100,
      .ofCircuit c "ro"⟩
  have hplan : Plan.make { Config.forDevice "sv1" with family := .force .ionq } c = .ok plan := rfl
  let gateway : Gateway Float Nat := ⟨TaskService.accepting, none⟩
  have hrun : ((gateway.submit (.remote DeviceName.sv1 true) c plan).run.run 0).1 = .ok run := rfl
  have hsubmitted : run.Submitted gateway := .single hplan (by decide) hrun
  exact ⟨(snapshots_transparent hsubmitted service points 1).2.2.1, rfl⟩

end CircuitDispatch
