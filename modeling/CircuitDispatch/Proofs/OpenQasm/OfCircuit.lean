import CircuitDispatch.OpenQasm.OfCircuit
import CircuitDispatch.Proofs.Circuit.Qubits
import CircuitDispatch.Proofs.Native.PhaseLedger
import CircuitDispatch.Proofs.OpenQasm.OfBlock

/-!
# The parts of a circuit's program

The program of a circuit declares its registers, goes through the operations in order, and measures
all qubits at the end if the circuit measures none by itself (`Program.of_ofCircuit`). So what it
declares is known (`Program.mem_iff_of_declares`), and all of it stands in front of any measurement
(`Program.mem_before_iff`); and so is what it measures (`Program.measured_eq`,
`Program.measure_mem_iff_of_ofCircuit`).

A circuit has a program exactly if the arguments of its gates have values
(`Program.exists_ofCircuit_iff`), and otherwise fails as these in a row do
(`Program.failAlike_ofCircuit`): nothing about registers is checked.
-/

namespace CircuitDispatch

variable {R : Type}

/-- What an operation measures by itself: the register, the bit and the qubit. -/
def Operation.measured? : Operation R → Option (String × Nat × OpenQasm.Operand)
  | .measure qubit readout index => some (readout, index, .logical qubit)
  | _ => none

namespace Circuit

/-- Whether the circuit itself measures some qubit. -/
def MeasuresItself (c : Circuit R) : Prop :=
  ∃ q readout index, .measure q readout index ∈ c.operations

/-- The register of the first declaration of shots. -/
def declaredReadout? (c : Circuit R) : Option String :=
  (c.operations.findSome? Operation.shotDeclaration?).map (·.2)

/-- The width that a register has in the program: the length of its last definition, and room for
all qubits if they are measured into it. -/
def registerWidth (c : Circuit R) (name : String) : Nat :=
  max ((OpenQasm.lastLength? c name).getD 0)
    (if OpenQasm.measureAllInto? c = some name then c.numberOfQubits else 0)

/-- The register that is declared behind the defined ones. -/
def addedRegister (c : Circuit R) : List String :=
  match OpenQasm.measureAllInto? c with
  | some readout => if (OpenQasm.lastLength? c readout).getD 0 = 0 then [readout] else []
  | none => []

/-- The statements that declare what the program of a circuit needs. -/
def declarations (c : Circuit R) : List (OpenQasm.Statement R) :=
  [.version] ++ (if c.numberOfQubits = 0 then [] else [.qubits c.numberOfQubits])
    ++ (OpenQasm.registers c).map fun (name, width) => .bits name width

/-- The statements that measure all qubits, if the circuit measures none by itself. -/
def measurementsOfAll (c : Circuit R) : List (OpenQasm.Statement R) :=
  match OpenQasm.measureAllInto? c with
  | some readout => (List.range c.numberOfQubits).map fun q => .measure readout q (.logical q)
  | none => []

end Circuit

namespace OpenQasm

variable {c : Circuit R} {name readout : String}

/-! ### Registers -/

theorem mem_registerNames : name ∈ registerNames c ↔
    ∃ length isOutput, .define .bit name length isOutput ∈ c.operations := by
  rw [registerNames, List.mem_eraseDups, List.mem_filterMap]
  constructor
  · rintro ⟨op, hop, hname⟩
    split at hname
    case h_1 =>
      cases hname
      exact ⟨_, _, hop⟩
    case h_2 => cases hname
  · rintro ⟨length, isOutput, hop⟩
    exact ⟨_, hop, rfl⟩

/-- Defined registers are those that have a last length. -/
theorem lastLength?_eq_none_iff : lastLength? c name = none ↔ name ∉ registerNames c := by
  rw [lastLength?, List.findSome?_eq_none_iff, mem_registerNames]
  constructor
  · rintro h ⟨length, isOutput, hop⟩
    have hnone : (if name = name then some length else none) = none :=
      h _ (List.mem_reverse.mpr hop)
    rw [if_pos rfl] at hnone
    cases hnone
  · intro h op hop
    split
    case h_1 defined length isOutput =>
      refine if_neg fun heq => h ⟨length, isOutput, ?_⟩
      rw [← heq]
      exact List.mem_reverse.mp hop
    case h_2 => rfl

theorem exists_lastLength?_iff :
    (∃ last, lastLength? c name = some last) ↔ name ∈ registerNames c := by
  rw [← Option.ne_none_iff_exists', Ne, lastLength?_eq_none_iff, not_not]

/-- All qubits are measured into a register exactly if the circuit measures none by itself and its
first declaration of shots names the register. -/
theorem measureAllInto?_eq_some_iff : measureAllInto? c = some readout ↔
    ¬ c.MeasuresItself ∧ c.declaredReadout? = some readout := by
  have hany : (c.operations.any fun | .measure _ _ _ => true | _ => false) = true ↔
      c.MeasuresItself := by
    rw [List.any_eq_true]
    constructor
    · rintro ⟨op, hop, hmeasure⟩
      split at hmeasure
      case h_1 q readout index => exact ⟨q, readout, index, hop⟩
      case h_2 => cases hmeasure
    · rintro ⟨q, readout, index, hop⟩
      exact ⟨_, hop, rfl⟩
  rw [measureAllInto?, ← hany, Circuit.declaredReadout?]
  split
  case isTrue h => exact iff_of_false nofun fun hnone => hnone.1 h
  case isFalse h => exact (and_iff_right h).symm

/-- **The registers of a program**, each with its width. -/
theorem registers_eq (c : Circuit R) : registers c
    = (registerNames c ++ c.addedRegister).map fun name => (name, c.registerWidth name) := by
  unfold registers Circuit.addedRegister Circuit.registerWidth
  cases hall : measureAllInto? c with
  | none => simp
  | some readout =>
    -- the register of all qubits is looked up by its name here, and with its own name there
    have hwidth : ∀ name, (if name = readout then max ((lastLength? c readout).getD 0)
          c.numberOfQubits else (lastLength? c name).getD 0)
        = max ((lastLength? c name).getD 0)
          (if some readout = some name then c.numberOfQubits else 0) := by
      intro name
      by_cases h : name = readout
      · rw [if_pos h, if_pos (congrArg some h.symm), h]
      · rw [if_neg h, if_neg fun heq => h (Option.some.inj heq).symm, Nat.max_zero]
    simp only [hwidth]
    split
    case isTrue => rfl
    case isFalse => rw [List.append_nil]

/-- Registers are declared if they are defined or all qubits are measured into them. -/
theorem mem_registerNames_append : name ∈ registerNames c ++ c.addedRegister ↔
    name ∈ registerNames c ∨ measureAllInto? c = some name := by
  rw [List.mem_append, Circuit.addedRegister]
  cases hall : measureAllInto? c with
  | none => simp
  | some readout =>
    by_cases hname : name = readout
    · subst hname
      by_cases hlength : (lastLength? c name).getD 0 = 0
      · simp [hlength]
      · have hdefined : name ∈ registerNames c := by
          rw [← exists_lastLength?_iff, ← Option.ne_none_iff_exists']
          intro hnone
          rw [hnone] at hlength
          exact hlength rfl
        simp [hdefined]
    · have hother : name ∉ if (lastLength? c readout).getD 0 = 0 then [readout] else [] := by
        split
        · exact fun hmem => hname (List.mem_singleton.mp hmem)
        · exact List.not_mem_nil
      simp [hother, Ne.symm hname]

/-- A register has so many bits exactly if its last definition says so, or there are so many qubits
and all are measured into it. -/
theorem le_registerWidth_iff {length last : Nat} (hlast : lastLength? c name = some last) :
    length ≤ c.registerWidth name ↔
      length ≤ last ∨ measureAllInto? c = some name ∧ length ≤ c.numberOfQubits := by
  rw [Circuit.registerWidth, hlast, Option.getD_some, le_max_iff]
  split
  case isTrue hall => rw [and_iff_right hall]
  case isFalse hall =>
    constructor
    · rintro (hlength | hzero)
      · exact .inl hlength
      · exact .inl (hzero.trans (Nat.zero_le last))
    · rintro (hlength | ⟨hall', -⟩)
      · exact .inl hlength
      · exact absurd hall' hall

theorem numberOfQubits_le_registerWidth (hall : measureAllInto? c = some name) :
    c.numberOfQubits ≤ c.registerWidth name := by
  rw [Circuit.registerWidth, if_pos hall]
  exact Nat.le_max_right _ _

/-! ### Declarations -/

theorem bits_mem_declarations {width : Nat} : .bits name width ∈ c.declarations ↔
    (name ∈ registerNames c ∨ measureAllInto? c = some name) ∧ width = c.registerWidth name := by
  have hregisters : .bits name width ∈ c.declarations ↔ (name, width) ∈ registers c := by
    unfold Circuit.declarations
    split <;> simp
  rw [hregisters, registers_eq, List.mem_map, ← mem_registerNames_append]
  constructor
  · rintro ⟨_, hmem, heq⟩
    cases heq
    exact ⟨hmem, rfl⟩
  · rintro ⟨hmem, rfl⟩
    exact ⟨name, hmem, rfl⟩

theorem declares_of_mem_circuitDeclarations {s : Statement R} (h : s ∈ c.declarations) :
    s.declares = true := by
  unfold Circuit.declarations at h
  rw [List.mem_append, List.mem_append] at h
  rcases h with (hversion | hqubits) | hbits
  · rw [List.mem_singleton.mp hversion]
    rfl
  · split at hqubits
    · cases hqubits
    · rw [List.mem_singleton.mp hqubits]
      rfl
  · obtain ⟨_, -, rfl⟩ := List.mem_map.mp hbits
    rfl

/-! ### Measurements -/

/-- What a statement measures: the register, the bit and the operand. -/
def Statement.measured? : Statement R → Option (String × Nat × Operand)
  | .measure register index operand => some (register, index, operand)
  | _ => none

theorem mem_filterMap_measured? {program : Program R} {register : String} {index : Nat}
    {operand : Operand} : (register, index, operand) ∈ program.filterMap Statement.measured? ↔
      .measure register index operand ∈ program := by
  rw [List.mem_filterMap]
  constructor
  · rintro ⟨s, hs, hmeasured⟩
    cases s with
    | measure =>
      cases hmeasured
      exact hs
    | version | qubits | bits | gate | verbatimBox => cases hmeasured
  · exact fun h => ⟨_, h, rfl⟩

theorem Statement.measured?_of_declares {s : Statement R} (h : s.declares = true) :
    s.measured? = none := by
  cases s with
  | version | qubits | bits => rfl
  | gate | verbatimBox | measure => cases h

theorem mem_filterMap_measured?_operations {register : String} {index : Nat} {operand : Operand} :
    (register, index, operand) ∈ c.operations.filterMap Operation.measured? ↔
      ∃ q, operand = .logical q ∧ .measure q register index ∈ c.operations := by
  rw [List.mem_filterMap]
  constructor
  · rintro ⟨op, hop, hmeasured⟩
    cases op with
    | measure q _ _ =>
      cases hmeasured
      exact ⟨q, rfl, hop⟩
    | single | pair | define | inputBit | setShots | repeatMeasurement | globalPhase =>
      cases hmeasured
  · rintro ⟨q, rfl, hop⟩
    exact ⟨_, hop, rfl⟩

theorem mem_measurementsOfAll {s : Statement R} : s ∈ c.measurementsOfAll ↔
    ∃ readout q, measureAllInto? c = some readout ∧ q < c.numberOfQubits ∧
      s = .measure readout q (.logical q) := by
  rw [Circuit.measurementsOfAll]
  cases hall : measureAllInto? c with
  | none => simp
  | some readout => simp [eq_comm (a := s)]

/-! ### Statements of operations -/

variable [Scalar R]

/-- The arguments of the gate that an operation is written as. -/
def arguments : Operation R → List (Angle R)
  | .single gate _ => (singleCall gate).2
  | .pair gate _ _ => (pairCall gate).2
  | _ => []

/-- The statement for an operation, with the values of its arguments. -/
def statementWith : Operation R → List R → Option (Statement R)
  | .single gate qubit, values => some (.gate ⟨(singleCall gate).1, values, [.logical qubit]⟩)
  | .pair gate control target, values =>
    some (.gate ⟨(pairCall gate).1, values, [.logical control, .logical target]⟩)
  | .measure qubit readout index, _ => some (.measure readout index (.logical qubit))
  | _, _ => none

/-- **An operation is written** as soon as its arguments have values. -/
theorem statement?_eq (op : Operation R) :
    statement? op = ((arguments op).mapM Angle.number).map (statementWith op) := by
  have hgate : ∀ call qubits, some <$> gateStatement (R := R) call qubits
      = (call.2.mapM Angle.number).map fun values =>
        some (.gate ⟨call.1, values, qubits.map .logical⟩) := by
    intro call qubits
    unfold gateStatement
    cases call.2.mapM Angle.number <;> rfl
  cases op with
  | single gate qubit => exact hgate _ _
  | pair gate control target => exact hgate _ _
  | define | inputBit | measure | setShots | repeatMeasurement | globalPhase => rfl

/-- **What an operation is written as**: a gate as a gate, a measurement as itself, and everything
else not at all. -/
theorem statement?_cases {op : Operation R} {written : Option (Statement R)}
    (h : statement? op = .ok written) :
    (∃ call, written = some (.gate call) ∧ op.measured? = none) ∨
      (∃ q readout index, written = some (.measure readout index (.logical q)) ∧
        op = .measure q readout index) ∨
      (written = none ∧ op.measured? = none) := by
  rw [statement?_eq] at h
  obtain ⟨values, -, rfl⟩ := map_eq_ok_iff.mp h
  cases op with
  | single | pair => exact .inl ⟨_, rfl, rfl⟩
  | measure q readout index => exact .inr (.inl ⟨q, readout, index, rfl, rfl⟩)
  | define | inputBit | setShots | repeatMeasurement | globalPhase => exact .inr (.inr ⟨rfl, rfl⟩)

/-! ### Programs -/

variable {program before after : Program R}

/-- **A circuit's program in full.** -/
theorem Program.ofCircuit_eq (c : Circuit R) : Program.ofCircuit c
    = (c.operations.filterMapM statement?).map fun statements =>
      c.declarations ++ statements ++ c.measurementsOfAll := by
  unfold Program.ofCircuit
  cases c.operations.filterMapM statement? <;> rfl

/-- **The parts of a circuit's program.** -/
theorem Program.of_ofCircuit (h : Program.ofCircuit c = .ok program) :
    ∃ statements, c.operations.filterMapM statement? = .ok statements ∧
      program = c.declarations ++ statements ++ c.measurementsOfAll := by
  rw [ofCircuit_eq] at h
  obtain ⟨statements, hstatements, rfl⟩ := map_eq_ok_iff.mp h
  exact ⟨statements, hstatements, rfl⟩

/-- **A circuit's program fails as the arguments** of the gates do. -/
theorem Program.failAlike_ofCircuit (c : Circuit R) :
    FailAlike (Program.ofCircuit c) ((c.operations.flatMap arguments).mapM Angle.number) := by
  rw [ofCircuit_eq, filterMapM_eq]
  exact ((failAlike_mapM_flatMap statement?_eq c.operations).map _).map _

/-- Operations declare nothing at their place. -/
theorem not_declares_of_mem_statements {statements : List (Statement R)}
    (h : c.operations.filterMapM statement? = .ok statements) {s : Statement R}
    (hs : s ∈ statements) : s.declares = false := by
  obtain ⟨op, -, hop⟩ := exists_of_mem_filterMapM h s hs
  rcases statement?_cases hop with ⟨call, hcall, -⟩ | ⟨q, register, index, hmeasure, -⟩ | ⟨hnone, -⟩
  · cases hcall
    rfl
  · cases hmeasure
    rfl
  · cases hnone

/-- **What a program declares.** -/
theorem Program.mem_iff_of_declares (h : Program.ofCircuit c = .ok program) {s : Statement R}
    (hs : s.declares = true) : s ∈ program ↔ s ∈ c.declarations := by
  obtain ⟨statements, hstatements, rfl⟩ := of_ofCircuit h
  rw [List.mem_append, List.mem_append, or_assoc]
  refine or_iff_left ?_
  rintro (hmem | hmem)
  · rw [not_declares_of_mem_statements hstatements hmem] at hs
    cases hs
  · obtain ⟨_, _, -, -, rfl⟩ := mem_measurementsOfAll.mp hmem
    cases hs

/-- **What a program measures**: what the circuit does in order, and then all qubits, if the circuit
measures none by itself. -/
theorem Program.measured_eq (h : Program.ofCircuit c = .ok program) :
    program.filterMap Statement.measured? = c.operations.filterMap Operation.measured?
      ++ c.measurementsOfAll.filterMap Statement.measured? := by
  obtain ⟨statements, hstatements, rfl⟩ := of_ofCircuit h
  have hdeclared : c.declarations.filterMap Statement.measured? = [] :=
    List.filterMap_eq_nil_iff.mpr fun s hs =>
      Statement.measured?_of_declares (declares_of_mem_circuitDeclarations hs)
  have hkept : ∀ (op : Operation R) written, statement? op = .ok written →
      written.bind Statement.measured? = op.measured? := by
    intro op written hop
    rcases statement?_cases hop with
      ⟨call, rfl, hnone⟩ | ⟨q, register, index, rfl, rfl⟩ | ⟨rfl, hnone⟩
    · exact hnone.symm
    · rfl
    · exact hnone.symm
  rw [List.filterMap_append, List.filterMap_append, hdeclared, List.nil_append,
    filterMap_of_filterMapM hkept hstatements]

/-- **Which qubit is measured where.** -/
theorem Program.measure_mem_iff_of_ofCircuit (h : Program.ofCircuit c = .ok program)
    {register : String} {index : Nat} {operand : Operand} :
    .measure register index operand ∈ program ↔ ∃ q, operand = .logical q ∧
      (.measure q register index ∈ c.operations ∨
        measureAllInto? c = some register ∧ index = q ∧ q < c.numberOfQubits) := by
  rw [← mem_filterMap_measured?, measured_eq h, List.mem_append,
    mem_filterMap_measured?_operations, mem_filterMap_measured?, mem_measurementsOfAll]
  constructor
  · rintro (⟨q, rfl, hop⟩ | ⟨_, _, hall, hq, hmeasure⟩)
    · exact ⟨q, rfl, .inl hop⟩
    · cases hmeasure
      exact ⟨index, rfl, .inr ⟨hall, rfl, hq⟩⟩
  · rintro ⟨q, rfl, hop | ⟨hall, rfl, hq⟩⟩
    · exact .inl ⟨q, rfl, hop⟩
    · exact .inr ⟨register, _, hall, hq, rfl⟩

end OpenQasm

end CircuitDispatch
