import CircuitDispatch.Proofs.Native.Placement
import CircuitDispatch.Proofs.OpenQasm.OfBlock

/-!
# Measurements come last

The program of a lowered circuit measures every qubit after all that it executes on it, whatever the
circuit does after its own measurement of the qubit. So what runs on a qubit before it is measured
comes from the operations before the measurement, and then from those after it
(`Program.measured_last`). It comes from the operations before the measurement alone exactly if no
instruction of the later ones acts on the qubit.

Such circuits are not refused: a gate on a measured qubit is lowered like any other gate, and moves
in front of the measurement (`Program.measurement_postponed`).
-/

namespace CircuitDispatch

variable {R : Type}

namespace OpenQasm

/-! ### What runs before a measurement -/

/-- The gates that a statement executes. -/
def Statement.calls : Statement R → List (GateCall R)
  | .gate call => [call]
  | .verbatimBox calls => calls
  | .version | .qubits _ | .bits _ _ | .measure _ _ _ => []

/-- Whether a statement measures an operand. -/
def Statement.measures (operand : Operand) : Statement R → Bool
  | .measure _ _ measured => measured = operand
  | _ => false

/-- The gates on an operand that a program executes before it first measures the operand. -/
def Program.callsBefore (operand : Operand) (program : Program R) : List (GateCall R) :=
  ((program.takeWhile fun s => !s.measures operand).flatMap Statement.calls).filter
    fun call => operand ∈ call.operands

theorem Statement.calls_of_declares {s : Statement R} (h : s.declares = true) : s.calls = [] := by
  cases s with
  | version | qubits | bits => rfl
  | gate | verbatimBox | measure => cases h

theorem Statement.measures_of_declares {s : Statement R} (h : s.declares = true)
    (operand : Operand) : s.measures operand = false := by
  cases s with
  | version | qubits | bits => rfl
  | gate | verbatimBox | measure => cases h

/-- Measurements execute no gates. -/
theorem calls_of_mem_measurements {block : NativeBlock R} {s : Statement R}
    (h : s ∈ block.measurements) : s.calls = [] := by
  obtain ⟨_, -, rfl⟩ := List.mem_map.mp h
  rfl

/-- In a program that declares, executes and then measures, all that is executed runs before the
measurement. -/
theorem Program.callsBefore_eq {block : NativeBlock R} {declarations : List (Statement R)}
    (hdeclares : ∀ s ∈ declarations, s.declares = true) (calls : List (GateCall R))
    (operand : Operand) :
    Program.callsBefore operand (declarations ++ .verbatimBox calls :: block.measurements)
      = calls.filter fun call => operand ∈ call.operands := by
  have hbefore : ∀ s ∈ declarations, (!s.measures operand) = true := by
    intro s hs
    rw [Statement.measures_of_declares (hdeclares s hs), Bool.not_false]
  have hdeclared : declarations.flatMap Statement.calls = [] :=
    List.flatMap_eq_nil_iff.mpr fun s hs => Statement.calls_of_declares (hdeclares s hs)
  have hmeasured : (block.measurements.takeWhile fun s => !s.measures operand).flatMap
      Statement.calls = [] :=
    List.flatMap_eq_nil_iff.mpr fun s hs =>
      calls_of_mem_measurements ((List.takeWhile_prefix _).subset hs)
  -- the walk comes to an end behind the box, wherever among the measurements that is
  rw [callsBefore, List.takeWhile_append_of_pos hbefore, List.takeWhile_cons_of_pos rfl,
    List.flatMap_append, List.flatMap_cons, hdeclared, hmeasured, List.nil_append, List.append_nil]
  rfl

end OpenQasm

/-! ### The calls of a block's instructions -/

variable [Scalar R] {block : NativeBlock R}

/-- The calls of those instructions that act on a qubit. -/
def NativeBlock.callsOn (block : NativeBlock R) (q : Nat) (instructions : List (Instruction R)) :
    Except CompileError (List (OpenQasm.GateCall R)) :=
  (instructions.filter fun i => q ∈ i.qubits).mapM (OpenQasm.GateCall.ofInstruction block)

namespace NativeBlock

variable {q : Nat} {instructions instructions' : List (Instruction R)}
  {calls : List (OpenQasm.GateCall R)}

theorem callsOn_append_eq_ok_iff :
    block.callsOn q (instructions ++ instructions') = .ok calls ↔
      ∃ first second, block.callsOn q instructions = .ok first ∧
        block.callsOn q instructions' = .ok second ∧ calls = first ++ second := by
  unfold callsOn
  rw [List.filter_append, mapM_append_eq_ok_iff]

/-- There are no calls exactly if no instruction acts on the qubit. -/
theorem callsOn_eq_nil_iff (h : block.callsOn q instructions = .ok calls) :
    calls = [] ↔ ∀ i ∈ instructions, q ∉ i.qubits := by
  have hlength := (mapM_eq_ok_iff.mp h).length_eq
  rw [← List.length_eq_zero_iff, ← hlength, List.length_eq_zero_iff, List.filter_eq_nil_iff]
  simp only [decide_eq_true_eq]

end NativeBlock

namespace OpenQasm

variable {family : Family} {c : Circuit R} {program : Program R} {q : Nat}

/-- A call acts on the places of the instruction's qubits. -/
theorem GateCall.operands_of_ofInstruction {i : Instruction R} {call : GateCall R}
    (h : GateCall.ofInstruction block i = .ok call) :
    call.operands = i.qubits.map fun q => .physical (block.physical q) := by
  obtain ⟨_, -, hcall⟩ := bind_eq_ok_iff.mp h
  obtain rfl := pure_eq_ok_iff.mp hcall
  rfl

/-- Places tell the qubits of a circuit apart, so a call acts on the place of a qubit exactly if the
instruction acts on the qubit. -/
theorem GateCall.mem_operands_iff (hlower : family.lower c = .ok block) (hq : q ∈ c.qubits)
    {i : Instruction R} (hi : i ∈ block.instructions) {call : GateCall R}
    (hcall : GateCall.ofInstruction block i = .ok call) :
    .physical (block.physical q) ∈ call.operands ↔ q ∈ i.qubits := by
  obtain ⟨ledger, hops, -, -⟩ := Family.of_lower hlower
  rw [operands_of_ofInstruction hcall, List.mem_map]
  constructor
  · rintro ⟨p, hp, heq⟩
    have hpc : p ∈ c.qubits := Circuit.mem_qubits.mpr (Family.lowerOperations_qubits hops i hi p hp)
    obtain rfl := (Family.physical_inj hlower hpc hq).mp (Operand.physical.inj heq)
    exact hp
  · exact fun hmem => ⟨q, hmem, rfl⟩

/-- **All that a block does on a qubit runs before the qubit is measured.** -/
theorem Program.callsOn_instructions (hlower : family.lower c = .ok block)
    (hprogram : Program.ofBlock block = .ok program) (hq : q ∈ c.qubits) :
    block.callsOn q block.instructions
      = .ok (program.callsBefore (.physical (block.physical q))) := by
  obtain ⟨declarations, calls, hdeclares, hcalls, rfl⟩ := Program.of_ofBlock hprogram
  rw [Program.callsBefore_eq hdeclares]
  refine mapM_filter_eq_ok hcalls fun i hi call hcall => ?_
  exact decide_eq_decide.mpr (GateCall.mem_operands_iff hlower hq hi hcall).symm

/-- What a program does with a qubit that the circuit measures between two parts, from which
lowering makes the `earlier` and the `later` instructions. -/
structure Program.MeasuresLast (program : Program R) (block : NativeBlock R) (q : Nat)
    (earlier later : List (Instruction R)) : Prop where
  /-- The qubit is measured. -/
  measured : ∃ column, .measure "b" column (.physical (block.physical q)) ∈ program
  /-- Before that runs what the first part does on the qubit, and then what the second part does. -/
  calls : ∃ first second, block.callsOn q earlier = .ok first ∧ block.callsOn q later = .ok second ∧
    program.callsBefore (.physical (block.physical q)) = first ++ second
  /-- This is what the first part does alone, exactly if the second leaves the qubit alone. -/
  inOrder : block.callsOn q earlier = .ok (program.callsBefore (.physical (block.physical q))) ↔
    ∀ i ∈ later, q ∉ i.qubits

/-- **Measurements come last.** Whatever stands before and after a measurement in a circuit, the
instructions of both parts run on the qubit before the program measures it. -/
theorem Program.measured_last (hlower : family.lower c = .ok block)
    (hprogram : Program.ofBlock block = .ok program) {before after : List (Operation R)}
    {readout : String} {index : Nat}
    (hmeasure : c.operations = before ++ .measure q readout index :: after) :
    ∃ earlier between later ledger, family.lowerOperations .empty before = .ok (earlier, between) ∧
      family.lowerOperations between after = .ok (later, ledger) ∧
      program.MeasuresLast block q earlier later := by
  obtain ⟨ledger, hops, hmeasured, -⟩ := Family.of_lower hlower
  rw [hmeasure, Family.lowerOperations_append_eq_ok_iff] at hops
  obtain ⟨earlier, between, _, hearlier, hrest, heq⟩ := hops
  -- the measurement itself is skipped
  have hlater : family.lowerOperations between after = .ok (_, ledger) := hrest
  have hq : q ∈ c.qubits := by
    refine Circuit.mem_qubits.mpr ⟨.measure q readout index, ?_, List.mem_cons_self⟩
    rw [hmeasure]
    exact List.mem_append_right before List.mem_cons_self
  have hcalls := Program.callsOn_instructions hlower hprogram hq
  rw [heq, NativeBlock.callsOn_append_eq_ok_iff] at hcalls
  obtain ⟨first, second, hfirst, hsecond, hbefore⟩ := hcalls
  refine ⟨earlier, between, _, ledger, hearlier, hlater, ?measured,
    ⟨first, second, hfirst, hsecond, hbefore⟩, ?inOrder⟩
  case measured =>
    obtain ⟨column, hcolumn⟩ := List.mem_iff_getElem?.mp hq
    refine ⟨column, (Program.measure_mem_iff hprogram).mpr ⟨rfl, q, ?_, rfl⟩⟩
    rw [hmeasured]
    exact hcolumn
  case inOrder =>
    rw [hfirst, hbefore, Except.ok.injEq, List.self_eq_append_right]
    exact NativeBlock.callsOn_eq_nil_iff hsecond

/-- A qubit is flipped, measured and flipped again. -/
def flippedAgain : Circuit Float :=
  ⟨[.single .pauliX 0, .measure 0 "ro" 0, .single .pauliX 0]⟩

/-- The program flips the qubit twice and then measures it. -/
theorem Program.measured_last_flippedAgain :
    ∃ (block : NativeBlock Float) (program : Program Float)
      (earlier later : List (Instruction Float)),
      Family.oqc.lower flippedAgain = .ok block ∧ Program.ofBlock block = .ok program ∧
        program.MeasuresLast block 0 earlier later ∧
        program.callsBefore (.physical (block.physical 0))
          = [⟨"x", [], [.physical 0]⟩, ⟨"x", [], [.physical 0]⟩] := by
  obtain ⟨block, program, hlower, hprogram, hcalls⟩ : ∃ block program,
      Family.oqc.lower flippedAgain = .ok block ∧ Program.ofBlock block = .ok program ∧
        program.callsBefore (.physical (block.physical 0))
          = [⟨"x", [], [.physical 0]⟩, ⟨"x", [], [.physical 0]⟩] := ⟨_, _, rfl, rfl, rfl⟩
  have hmeasure : flippedAgain.operations
      = [.single .pauliX 0] ++ .measure 0 "ro" 0 :: [.single .pauliX 0] := rfl
  obtain ⟨earlier, _, later, _, -, -, hlast⟩ :=
    Program.measured_last hlower hprogram hmeasure
  exact ⟨block, program, earlier, later, hlower, hprogram, hlast, hcalls⟩

/-- **A measurement is postponed.** What runs on a qubit before it is measured is not always what the
circuit does on it before its own measurement. -/
theorem Program.measurement_postponed :
    ¬ ∀ (family : Family) (c : Circuit Float) (block : NativeBlock Float) (program : Program Float)
      (before after : List (Operation Float)) (q : Nat) (readout : String) (index : Nat)
      (earlier : List (Instruction Float)) (ledger : PhaseLedger Float),
      family.lower c = .ok block → Program.ofBlock block = .ok program →
      c.operations = before ++ .measure q readout index :: after →
      family.lowerOperations .empty before = .ok (earlier, ledger) →
      block.callsOn q earlier = .ok (program.callsBefore (.physical (block.physical q))) := by
  intro h
  have hcalls := h .oqc flippedAgain _ _ [.single .pauliX 0] [.single .pauliX 0] 0 "ro" 0 _ _
    rfl rfl rfl rfl
  cases hcalls

end OpenQasm

end CircuitDispatch
