import CircuitDispatch.Proofs.Native.Angles
import CircuitDispatch.Proofs.Native.Placement
import CircuitDispatch.Proofs.OpenQasm.OfCircuit

/-!
# What can be written out

Writing out a program takes a value for each angle in it, and nothing else. So the text of a
circuit, and that of a block, fail as their angles in a row do (`Circuit.failAlike_openQasm`,
`NativeBlock.failAlike_openQasm`): with the first one that has no value.

These are not the angles of the circuit itself: some gates are written with constants, and the
angles of a block are folded. But what folding keeps true of angles passes from the gates of the
circuit to all of them (`Circuit.forall_mem_arguments`, `NativeBlock.forall_mem_angles`), and folding
loses no value and brings in no symbol. So what is reported can be found in the circuit (`Blames`).
`Circuit.openQasm_outcome` puts this together.
-/

namespace CircuitDispatch

variable {R : Type}

namespace Circuit

/-- The angles of the gates of a circuit, in order. -/
def gateAngles (c : Circuit R) : List (Angle R) :=
  (c.operations.filter Operation.isGate).flatMap Operation.angles

theorem mem_gateAngles {c : Circuit R} {a : Angle R} :
    a ∈ c.gateAngles ↔ ∃ op ∈ c.operations, op.isGate = true ∧ a ∈ op.angles := by
  simp only [gateAngles, List.mem_flatMap, List.mem_filter, and_assoc]

/-- Whether every angle of every gate has a value. -/
def Bound [Scalar R] (c : Circuit R) : Prop := ∀ a ∈ c.gateAngles, ∃ v, a.eval? = some v

end Circuit

variable [Scalar R]

/-- What is reported when angles are written out that were made from those of a circuit. The first
one without a value is at fault. -/
inductive Blames (c : Circuit R) (angles : List (Angle R)) : CompileError → Prop
  /-- A symbol is free in it, and in a gate of the circuit. -/
  | symbol {before after : List (Angle R)} {a : Angle R} {name : String}
      (hsplit : angles = before ++ a :: after) (hbefore : ∀ x ∈ before, ∃ v, x.eval? = some v)
      (hname : name ∈ a.symbols) (hfree : ∃ a' ∈ c.gateAngles, name ∈ a'.symbols) :
      Blames c angles (.circuit (.unboundParameter name))
  /-- No symbol is free in it, and it divides by zero. -/
  | quotient {before after : List (Angle R)} {a : Angle R}
      (hsplit : angles = before ++ a :: after) (hbefore : ∀ x ∈ before, ∃ v, x.eval? = some v)
      (hsymbols : a.symbols = []) (hdivides : a.DividesByZero) :
      Blames c angles (.circuit (.unboundParameter a.render))

variable {c : Circuit R} {family : Family} {block : NativeBlock R} {P : Angle R → Prop}

/-! ### Texts fail as their angles do -/

/-- **The text of a circuit** fails as the arguments of its gates do. -/
theorem Circuit.failAlike_openQasm (c : Circuit R) :
    FailAlike c.openQasm ((c.operations.flatMap OpenQasm.arguments).mapM Angle.number) :=
  (OpenQasm.Program.failAlike_ofCircuit c).map _

/-- **The text of a block** fails as the angles of its instructions do. -/
theorem NativeBlock.failAlike_openQasm (block : NativeBlock R) :
    FailAlike block.openQasm (block.angles.mapM Angle.number) :=
  (OpenQasm.Program.failAlike_ofBlock block).map _

/-! ### Angles that are written out -/

/-- The arguments of a gate are its angles, or constants. -/
theorem OpenQasm.forall_mem_arguments (hP : Angle.KeptByFolding P) {op : Operation R}
    (hop : op.isGate = true → ∀ a ∈ op.angles, P a) : ∀ a ∈ arguments op, P a := by
  cases op with
  | single gate qubit =>
    have hangles : (singleCall gate).2 = gate.angles := by cases gate <;> rfl
    rw [arguments, hangles]
    exact hop rfl
  | pair gate control target =>
    have hangles : ∀ a ∈ gate.angles, P a := hop rfl
    cases gate with
    | molmerSorensenXX => simp [arguments, pairCall, hP.zero, hP.quarterTurn]
    | variableMSXX theta =>
      simp [arguments, pairCall, hP.zero, hangles theta List.mem_cons_self]
    | cnot | controlledPauliZ | controlledPhaseShift | xy | echoCrossResonance => exact hangles
  | define | inputBit | measure | setShots | repeatMeasurement | globalPhase =>
    exact List.forall_mem_nil _

theorem OpenQasm.mem_arguments_of_mem_angles {op : Operation R} (hgate : op.isGate = true)
    {a : Angle R} (ha : a ∈ op.angles) : a ∈ arguments op := by
  cases op with
  | single gate qubit =>
    cases gate <;> exact ha
  | pair gate control target =>
    cases gate with
    | molmerSorensenXX => cases ha
    | variableMSXX => exact List.mem_cons_of_mem _ (List.mem_cons_of_mem _ ha)
    | cnot | controlledPauliZ | controlledPhaseShift | xy | echoCrossResonance => exact ha
  | define | inputBit | measure | setShots | repeatMeasurement | globalPhase => cases hgate

/-- What folding keeps true passes to all that is written out of a circuit. -/
theorem Circuit.forall_mem_arguments (hP : Angle.KeptByFolding P) (hc : ∀ a ∈ c.gateAngles, P a) :
    ∀ a ∈ c.operations.flatMap OpenQasm.arguments, P a := by
  intro a ha
  obtain ⟨op, hop, ha⟩ := List.mem_flatMap.mp ha
  exact OpenQasm.forall_mem_arguments hP
    (fun hgate a' ha' => hc a' (mem_gateAngles.mpr ⟨op, hop, hgate, ha'⟩)) a ha

/-- What folding keeps true passes to all that is written out of a block. -/
theorem NativeBlock.forall_mem_angles (hP : Angle.KeptByFolding P) (hc : ∀ a ∈ c.gateAngles, P a)
    (h : family.lower c = .ok block) : ∀ a ∈ block.angles, P a := by
  obtain ⟨ledger, hops, -⟩ := Family.of_lower h
  have hangles := Family.lowerOperations_angles hP PhaseLedger.all_empty
    (fun op hop hgate a ha => hc a (Circuit.mem_gateAngles.mpr ⟨op, hop, hgate, ha⟩)) hops
  intro a ha
  obtain ⟨i, hi, ha⟩ := List.mem_flatMap.mp ha
  exact hangles i hi a ha

/-! ### What is reported -/

theorem Angle.number_eq_error_iff {a : Angle R} {e : CompileError} :
    a.number = .error e ↔ a.eval? = none ∧ e = .circuit (.unboundParameter a.culprit) := by
  unfold number value
  cases a.eval? with
  | none => simp [eq_comm]
  | some v => simp

/-- Angles have numbers exactly if each has a value. -/
theorem exists_mapM_number_iff {angles : List (Angle R)} :
    (∃ values, angles.mapM Angle.number = .ok values) ↔ ∀ a ∈ angles, ∃ v, a.eval? = some v := by
  simp only [exists_mapM_eq_ok_iff, Angle.number_eq_ok_iff]

/-- **The first angle without a value is at fault**, and where a symbol is free in it, this symbol
comes from the circuit. -/
theorem blames_of_mapM_number {angles : List (Angle R)}
    (hangles : ∀ a ∈ angles, ∀ name ∈ a.occurrences, ∃ a' ∈ c.gateAngles, name ∈ a'.symbols)
    {e : CompileError} (h : angles.mapM Angle.number = .error e) : Blames c angles e := by
  obtain ⟨before, a, after, hsplit, hbefore, hfails⟩ := exists_of_mapM_eq_error h
  obtain ⟨hnone, rfl⟩ := Angle.number_eq_error_iff.mp hfails
  simp only [Angle.number_eq_ok_iff] at hbefore
  -- the symbols of the angle tell which of the two cases it is
  rcases Angle.culprit_cases hnone with hname | ⟨hsymbols, hrender, hdivides⟩
  · have ha : a ∈ angles := hsplit ▸ List.mem_append_right before List.mem_cons_self
    exact .symbol hsplit hbefore hname (hangles a ha _ (Angle.mem_symbols.mp hname))
  · rw [hrender]
    exact .quotient hsplit hbefore hsymbols hdivides

/-! ### Phases of the whole circuit -/

/-- The same operation with another phase, if it records one. -/
def Operation.mapGlobalPhase (f : Angle R → Angle R) : Operation R → Operation R
  | .globalPhase phase => .globalPhase (f phase)
  | op => op

/-- The same circuit with other phases recorded. -/
def Circuit.mapGlobalPhases (f : Angle R → Angle R) (c : Circuit R) : Circuit R :=
  ⟨c.operations.map (Operation.mapGlobalPhase f)⟩

section GlobalPhases

variable (f : Angle R → Angle R) (c : Circuit R)

omit [Scalar R] in
/-- What is read off an operation without its recorded phase stays. -/
theorem Operation.comp_mapGlobalPhase {β : Type} (read : Operation R → β)
    (h : ∀ phase, read (.globalPhase (f phase)) = read (.globalPhase phase)) :
    read ∘ mapGlobalPhase f = read := by
  funext op
  cases op with
  | globalPhase phase => exact h phase
  | single | pair | define | inputBit | measure | setShots | repeatMeasurement => rfl

omit [Scalar R] in
theorem Circuit.qubits_mapGlobalPhases : (c.mapGlobalPhases f).qubits = c.qubits := by
  unfold qubits mapGlobalPhases
  rw [List.flatMap_map]
  exact congrArg (fun read => SortedList.ofList (c.operations.flatMap read))
    (Operation.comp_mapGlobalPhase f Operation.qubits fun _ => rfl)

namespace OpenQasm

omit [Scalar R] in
theorem measureAllInto?_mapGlobalPhases :
    measureAllInto? (c.mapGlobalPhases f) = measureAllInto? c := by
  unfold measureAllInto? Circuit.mapGlobalPhases
  rw [List.any_map, List.findSome?_map, Operation.comp_mapGlobalPhase f,
    Operation.comp_mapGlobalPhase f]
  · exact fun _ => rfl
  · exact fun _ => rfl

omit [Scalar R] in
theorem registers_mapGlobalPhases : registers (c.mapGlobalPhases f) = registers c := by
  have hnames : registerNames (c.mapGlobalPhases f) = registerNames c := by
    unfold registerNames Circuit.mapGlobalPhases
    rw [List.filterMap_map, Operation.comp_mapGlobalPhase f]
    exact fun _ => rfl
  have hlength : ∀ name, lastLength? (c.mapGlobalPhases f) name = lastLength? c name := by
    intro name
    unfold lastLength? Circuit.mapGlobalPhases
    rw [← List.map_reverse, List.findSome?_map, Operation.comp_mapGlobalPhase f]
    exact fun _ => rfl
  unfold registers Circuit.numberOfQubits
  simp only [hnames, hlength, measureAllInto?_mapGlobalPhases, Circuit.qubits_mapGlobalPhases]

theorem Program.ofCircuit_mapGlobalPhases :
    Program.ofCircuit (c.mapGlobalPhases f) = Program.ofCircuit c := by
  have hstatements : (c.mapGlobalPhases f).operations.filterMapM statement?
      = c.operations.filterMapM statement? := by
    rw [filterMapM_eq, filterMapM_eq, Circuit.mapGlobalPhases, List.mapM_map,
      Operation.comp_mapGlobalPhase f statement? fun _ => rfl]
  rw [ofCircuit_eq, ofCircuit_eq, hstatements]
  unfold Circuit.declarations Circuit.measurementsOfAll Circuit.numberOfQubits
  rw [Circuit.qubits_mapGlobalPhases, registers_mapGlobalPhases, measureAllInto?_mapGlobalPhases]

end OpenQasm

namespace Family

theorem lowerOperations_mapGlobalPhase (family : Family) (ledger : PhaseLedger R)
    (ops : List (Operation R)) :
    family.lowerOperations ledger (ops.map (Operation.mapGlobalPhase f))
      = family.lowerOperations ledger ops := by
  induction ops generalizing ledger with
  | nil => rfl
  | cons op rest ih =>
    have htag : (op.mapGlobalPhase f).tag = op.tag :=
      congrFun (Operation.comp_mapGlobalPhase f Operation.tag fun _ => rfl) op
    have hop : family.lowerOperation? ledger (op.mapGlobalPhase f)
        = family.lowerOperation? ledger op :=
      congrFun (Operation.comp_mapGlobalPhase f (family.lowerOperation? ledger) fun _ => rfl) op
    simp only [List.map_cons, lowerOperations, hop, htag, ih]

theorem lower_mapGlobalPhases (family : Family) :
    family.lower (c.mapGlobalPhases f) = family.lower c := by
  unfold lower
  rw [Circuit.qubits_mapGlobalPhases, Circuit.mapGlobalPhases, lowerOperations_mapGlobalPhase]

end Family

end GlobalPhases

/-! ### Writing out a circuit and its blocks -/

namespace Circuit

/-- **What can be written out.** A circuit has a text exactly if the angles of its gates have
values, and then so have the blocks that it is lowered to. Otherwise a symbol of the circuit is
reported, or an angle that divides by zero. Phases of the whole circuit make no difference. -/
theorem openQasm_outcome (htwo : Scalar.isZero (Scalar.ofNat 2 : R) = false) (c : Circuit R) :
    ((∃ text, c.openQasm = .ok text) ↔ c.Bound) ∧
    (∀ e, c.openQasm = .error e → Blames c (c.operations.flatMap OpenQasm.arguments) e) ∧
    (∀ (family : Family) block, family.lower c = .ok block →
      (c.Bound → ∃ text, block.openQasm = .ok text) ∧
      ∀ e, block.openQasm = .error e → Blames c block.angles e) ∧
    ∀ f, (c.mapGlobalPhases f).openQasm = c.openQasm ∧
      ∀ family : Family, family.lower (c.mapGlobalPhases f) = family.lower c := by
  have hvalues := Angle.keptByFolding_eval? htwo
  have hsymbols := Angle.keptByFolding_occurrences (R := R)
    fun name => ∃ a ∈ c.gateAngles, name ∈ a.symbols
  have hgates : ∀ a ∈ c.gateAngles, ∀ name ∈ a.occurrences,
      ∃ a' ∈ c.gateAngles, name ∈ a'.symbols :=
    fun a ha name hname => ⟨a, ha, Angle.mem_symbols.mpr hname⟩
  refine ⟨?_, fun e he => ?_, fun family block h => ⟨fun hbound => ?_, fun e he => ?_⟩,
    fun f => ⟨?_, fun family => Family.lower_mapGlobalPhases f c family⟩⟩
  · -- the arguments of a gate are its angles, and constants that have values
    rw [c.failAlike_openQasm.exists_ok_iff, exists_mapM_number_iff]
    refine ⟨fun hall a ha => hall a ?_, forall_mem_arguments hvalues⟩
    obtain ⟨op, hop, hgate, ha⟩ := mem_gateAngles.mp ha
    exact List.mem_flatMap.mpr ⟨op, hop, OpenQasm.mem_arguments_of_mem_angles hgate ha⟩
  · exact blames_of_mapM_number (forall_mem_arguments hsymbols hgates)
      (c.failAlike_openQasm.eq_error_iff.mp he)
  · rw [block.failAlike_openQasm.exists_ok_iff, exists_mapM_number_iff]
    exact NativeBlock.forall_mem_angles hvalues hbound h
  · exact blames_of_mapM_number (NativeBlock.forall_mem_angles hsymbols hgates h)
      (block.failAlike_openQasm.eq_error_iff.mp he)
  · unfold openQasm
    rw [OpenQasm.Program.ofCircuit_mapGlobalPhases]

/-- A rotation by a symbol, folded into a gate, beside a phase that divides by zero. -/
def rotatedByAlpha : Circuit Float :=
  ⟨[.single (.rotateZ (.symbol "alpha")) 0,
    .single (.rotateXY (.constant (Scalar.ofNat 1)) (.constant (Scalar.ofNat 3))) 0,
    .globalPhase (.div .pi Angle.zero)]⟩

/-- Both texts report the symbol, and with a number in its place there are texts. -/
theorem openQasm_outcome_rotatedByAlpha : Scalar.isZero (Scalar.ofNat 2 : Float) = false ∧
    (∃ block, Family.iqm.lower rotatedByAlpha = .ok block ∧
      rotatedByAlpha.openQasm = .error (.circuit (.unboundParameter "alpha")) ∧
      Blames rotatedByAlpha (rotatedByAlpha.operations.flatMap OpenQasm.arguments)
        (.circuit (.unboundParameter "alpha")) ∧
      block.openQasm = .error (.circuit (.unboundParameter "alpha")) ∧
      Blames rotatedByAlpha block.angles (.circuit (.unboundParameter "alpha"))) ∧
    ∃ block text text', (rotatedByAlpha.bind fun _ => some (Scalar.ofNat 2)).Bound ∧
      Family.iqm.lower (rotatedByAlpha.bind fun _ => some (Scalar.ofNat 2)) = .ok block ∧
      (rotatedByAlpha.bind fun _ => some (Scalar.ofNat 2)).openQasm = .ok text ∧
      block.openQasm = .ok text' := by
  have htwo : Scalar.isZero (Scalar.ofNat 2 : Float) = false := by decide
  obtain ⟨-, hcircuit, hblocks, -⟩ := openQasm_outcome htwo rotatedByAlpha
  obtain ⟨hiff, -, hblocks', -⟩ :=
    openQasm_outcome htwo (rotatedByAlpha.bind fun _ => some (Scalar.ofNat 2))
  have hbound : (rotatedByAlpha.bind fun _ => some (Scalar.ofNat 2)).Bound :=
    List.forall_mem_cons.mpr ⟨⟨_, rfl⟩, List.forall_mem_cons.mpr ⟨⟨_, rfl⟩,
      List.forall_mem_singleton.mpr ⟨_, rfl⟩⟩⟩
  obtain ⟨text, htext⟩ := hiff.mpr hbound
  obtain ⟨text', htext'⟩ := (hblocks' .iqm _ rfl).1 hbound
  exact ⟨htwo, ⟨_, rfl, rfl, hcircuit _ rfl, rfl, (hblocks .iqm _ rfl).2 _ rfl⟩,
    _, text, text', hbound, rfl, htext, htext'⟩

end Circuit

end CircuitDispatch
