import CircuitDispatch.Plan.Assembly
import CircuitDispatch.Proofs.Dispatch.Submission
import CircuitDispatch.Proofs.OpenQasm.OfCircuit
import CircuitDispatch.Proofs.SortedMap

/-!
# The readout of a text and the registers that it writes

A plan stores the rows of a circuit under one name, its readout: the register of the declaration of
shots, and without one that of the first measurement (`Plan.readout_of_measurementDeclaration`). Its
text follows the circuit instead: if the circuit measures by itself, each measurement writes the
register that it names, and only otherwise all qubits are measured into the declared register. So
the text writes the readout alone exactly if the circuit itself measures into nothing else
(`Plan.text_writesReadout`).

A circuit may declare its shots for one register and measure into another. Its rows are stored under
the declared name, which the text does not write (`Plan.text_writesOther`).
-/

namespace CircuitDispatch

variable {R : Type}

/-- The register of the first measurement of a circuit. -/
def Circuit.measuredReadout? (c : Circuit R) : Option String :=
  (c.operations.findSome? Operation.measured?).map (·.1)

/-- What the text of a plan writes, and where the rows are stored. -/
structure Plan.WritesReadout (plan : Plan R) (program : OpenQasm.Program R) (c : Circuit R) :
    Prop where
  /-- The readout is the register of the declaration of shots, or that of the first measurement. -/
  chosen : plan.metadata.readoutName
    = (c.declaredReadout?.or c.measuredReadout?).getD Plan.defaultReadout
  /-- If the circuit measures by itself, its measurements are written as they are. -/
  own : c.MeasuresItself → ∀ register index operand,
    .measure register index operand ∈ program ↔
      ∃ q, operand = .logical q ∧ .measure q register index ∈ c.operations
  /-- If it does not, only the readout is written. -/
  whole : ¬ c.MeasuresItself → ∀ register index operand,
    .measure register index operand ∈ program → register = plan.metadata.readoutName
  /-- So only the readout is written exactly if the circuit itself measures into nothing else. -/
  agrees : (∀ register index operand, .measure register index operand ∈ program →
      register = plan.metadata.readoutName) ↔
    ∀ q register index, .measure q register index ∈ c.operations →
      register = plan.metadata.readoutName
  /-- Rows are stored under the readout, and under no other name. -/
  stored : ∀ samples name, ((plan.metadata.assemble samples).bit.get? name).isSome = true ↔
    name = plan.metadata.readoutName

/-- **Rows are stored under one name.** -/
theorem CircuitMetadata.isSome_assemble_iff (m : CircuitMetadata R) (samples : Samples)
    {name : String} :
    ((m.assemble samples).bit.get? name).isSome = true ↔ name = m.readoutName := by
  constructor
  · intro hsome
    by_contra hne
    have hnone : (m.assemble samples).bit.get? name = none := by
      rw [CircuitMetadata.assemble, SortedMap.get?_insert_of_ne _ _ hne, SortedMap.get?_empty]
    rw [hnone] at hsome
    cases hsome
  · rintro rfl
    rw [CircuitMetadata.assemble, SortedMap.get?_insert_self]
    rfl

namespace Plan

variable {c : Circuit R} {shots : Nat} {readout : String}

/-! ### The choice of the readout -/

/-- The declarations of shots are looked for in two goes, but none is lost or counted twice. -/
theorem shotDeclarations_perm (c : Circuit R) :
    (shotDeclarations c).Perm (c.operations.filterMap Operation.shotDeclaration?) := by
  unfold shotDeclarations Circuit.withTag
  rw [List.filterMap_append]
  induction c.operations with
  | nil => exact .nil
  | cons op rest ih =>
    cases op with
    | setShots shots readout => exact ih.cons (shots, readout)
    | repeatMeasurement readout shots mapping =>
      -- it is found in the second go, behind all that are found in the first
      exact List.perm_middle.trans (ih.cons (shots, readout))
    | single gate qubit => cases gate <;> exact ih
    | pair gate control target => cases gate <;> exact ih
    | define kind name length isOutput => cases kind <;> exact ih
    | inputBit | measure | globalPhase => exact ih

/-- The register of the first measurement, looked for by name. -/
theorem findSome?_withTag_eq (c : Circuit R) :
    (c.withTag "MeasureQubit").findSome? Operation.readout? = c.measuredReadout? := by
  have hreadout : ∀ op : Operation R,
      (if op.tag == "MeasureQubit" then op.readout? else none) = op.measured?.map (·.1) := by
    intro op
    cases op with
    | single gate qubit => cases gate <;> rfl
    | pair gate control target => cases gate <;> rfl
    | define kind name length isOutput => cases kind <;> rfl
    | inputBit | measure | setShots | repeatMeasurement | globalPhase => rfl
  rw [Circuit.withTag, Circuit.measuredReadout?, List.map_findSome?, ← List.head?_filterMap,
    ← List.head?_filterMap, List.filterMap_filter]
  exact congrArg List.head? (List.filterMap_congr fun op _ => hreadout op)

/-- **The readout that is planned**: the declared register first, then that of a measurement. -/
theorem readout_of_measurementDeclaration
    (h : measurementDeclaration c = .ok (shots, readout)) :
    readout = (c.declaredReadout?.or c.measuredReadout?).getD defaultReadout := by
  have hperm := shotDeclarations_perm c
  rw [Circuit.declaredReadout?, ← List.head?_filterMap]
  unfold measurementDeclaration at h
  split at h
  case h_1 hnone =>
    rw [hnone, List.nil_perm] at hperm
    cases h
    rw [hperm, findSome?_withTag_eq]
    rfl
  case h_2 declaration hone =>
    rw [hone, List.singleton_perm] at hperm
    cases h
    rw [← hperm]
    rfl
  case h_3 => cases h

/-! ### Texts -/

variable [Scalar R] {config : Config} {plan : Plan R} {text : String}

/-- A text is that of the circuit's program. -/
theorem program_of_make (hplan : Plan.make config c = .ok plan)
    (htext : plan.program = .openQasm text) :
    ∃ program, OpenQasm.Program.ofCircuit c = .ok program ∧ text = program.render := by
  obtain ⟨_, family, -, -, -, hprogram, -⟩ := Plan.of_make hplan
  rw [htext] at hprogram
  cases family with
  | none =>
    obtain ⟨_, hopenQasm, heq⟩ := map_eq_ok_iff.mp hprogram
    obtain ⟨program, hofCircuit, rfl⟩ := map_eq_ok_iff.mp (mapError_eq_ok_iff.mp hopenQasm)
    exact ⟨program, hofCircuit, (DeviceProgram.openQasm.inj heq).symm⟩
  | some family =>
    -- with a family the program is native
    obtain ⟨_, -, hverbatim⟩ := map_eq_ok_iff.mp hprogram
    cases hverbatim

/-- **What a text writes and where its rows are stored.** -/
theorem text_writesReadout (hplan : Plan.make config c = .ok plan)
    (htext : plan.program = .openQasm text) :
    ∃ program, OpenQasm.Program.ofCircuit c = .ok program ∧ text = program.render ∧
      plan.WritesReadout program c := by
  obtain ⟨program, hprogram, htext⟩ := program_of_make hplan htext
  obtain ⟨readout, _, hdeclared, -, -, -, hmetadata⟩ := Plan.of_make hplan
  have hname : plan.metadata.readoutName = readout := by rw [hmetadata]; rfl
  have hchosen := readout_of_measurementDeclaration hdeclared
  have hmeasures := @OpenQasm.Program.measure_mem_iff_of_ofCircuit _ _ _ _ hprogram
  -- whatever is measured at the end goes into the register that is declared
  have hall : ∀ register, OpenQasm.measureAllInto? c = some register → register = readout := by
    intro register hall
    rw [hchosen, (OpenQasm.measureAllInto?_eq_some_iff.mp hall).2]
    rfl
  rw [← hname] at hchosen hall
  refine ⟨program, hprogram, htext, hchosen, ?own, ?whole, ?agrees, ?stored⟩
  case own =>
    intro hitself register index operand
    rw [hmeasures]
    refine exists_congr fun q => and_congr_right fun _ => or_iff_left ?_
    rintro ⟨hall, -⟩
    exact (OpenQasm.measureAllInto?_eq_some_iff.mp hall).1 hitself
  case whole =>
    intro hnone register index operand hmem
    obtain ⟨q, -, hop | ⟨hregister, -⟩⟩ := hmeasures.mp hmem
    · exact absurd ⟨q, register, index, hop⟩ hnone
    · exact hall register hregister
  case agrees =>
    constructor
    · intro hwritten q register index hop
      exact hwritten register index _ (hmeasures.mpr ⟨q, rfl, .inl hop⟩)
    · intro hown register index operand hmem
      obtain ⟨q, -, hop | ⟨hregister, -⟩⟩ := hmeasures.mp hmem
      · exact hown q register index hop
      · exact hall register hregister
  case stored => exact fun samples name => plan.metadata.isSome_assemble_iff samples

/-- Two qubits that are measured into the register that the shots are declared for. -/
def measuredAsDeclared : Circuit Float :=
  ⟨[.define .bit "ro" 2 true, .setShots 10 "ro", .single .pauliX 1, .measure 1 "ro" 0,
    .measure 0 "ro" 1]⟩

/-- The text writes only the readout. -/
theorem text_writesReadout_measuredAsDeclared :
    ∃ (plan : Plan Float) (program : OpenQasm.Program Float),
      Plan.make (Config.forDevice "sv1") measuredAsDeclared = .ok plan ∧
        plan.program = .openQasm program.render ∧ plan.metadata.readoutName = "ro" ∧
        ∀ register index operand, .measure register index operand ∈ program → register = "ro" := by
  obtain ⟨plan, text, hplan, htext, hname⟩ : ∃ plan text,
      Plan.make (Config.forDevice "sv1") measuredAsDeclared = .ok plan ∧
        plan.program = .openQasm text ∧ plan.metadata.readoutName = "ro" := ⟨_, _, rfl, rfl, rfl⟩
  obtain ⟨program, -, rfl, hwrites⟩ := text_writesReadout hplan htext
  refine ⟨plan, program, hplan, htext, hname, ?_⟩
  rw [← hname]
  refine hwrites.agrees.mpr fun q register index hop => ?_
  simp only [measuredAsDeclared, List.mem_cons, reduceCtorEq, false_or, Operation.measure.injEq,
    List.not_mem_nil, or_false] at hop
  obtain ⟨-, rfl, -⟩ | ⟨-, rfl, -⟩ := hop
  · exact hname.symm
  · exact hname.symm

/-- The shots are declared for one register and measured into another. -/
def measuredElsewhere : Circuit Float :=
  ⟨[.define .bit "counts" 1 true, .define .bit "ro" 1 true, .setShots 10 "counts",
    .measure 0 "ro" 0]⟩

/-- **A text writes another register.** That a plan stores rows under a name does not mean that its
text measures into the register of this name. -/
theorem text_writesOther :
    ¬ ∀ (config : Config) (c : Circuit Float) (plan : Plan Float)
      (program : OpenQasm.Program Float), Plan.make config c = .ok plan →
      plan.program = .openQasm program.render → OpenQasm.Program.ofCircuit c = .ok program →
      ∀ register index operand, .measure register index operand ∈ program →
        register = plan.metadata.readoutName := by
  intro h
  have hname : "ro" = "counts" :=
    h (Config.forDevice "sv1") measuredElsewhere _ _ rfl rfl rfl "ro" 0 (.logical 0) (by simp)
  revert hname
  decide

end Plan

end CircuitDispatch
