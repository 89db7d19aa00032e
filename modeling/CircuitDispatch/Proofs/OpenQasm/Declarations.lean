import CircuitDispatch.Proofs.Circuit.BitRegisters
import CircuitDispatch.Proofs.OpenQasm.OfCircuit

/-!
# What a circuit's program declares

The program of a circuit declares the registers that the circuit defines, and the one that all
qubits are measured into; a register is as wide as its last definition says, and the one for all
qubits has room for them (`Program.bits_mem_iff`).

The declarations are in order, that is, no identifier is declared twice and no register is narrower
than its first definition says, only for circuits that define their registers plainly
(`Circuit.DefinesPlainly`, `Program.declares_inOrder_iff`). Three things can go wrong:

* a register is called `q`, like the register of the qubits;
* the register for all qubits is defined without bits: it then counts as one that is still to be
  declared, and is declared twice (`Program.readout_declaredTwice`);
* a register is defined again with fewer bits: the last definition counts, while a circuit reads the
  first (`Circuit.bitRegisterLength?`).

None of them is refused.
-/

namespace CircuitDispatch

variable {R : Type}

/-- In a list without repetitions each element occurs once. -/
private theorem nodup_eraseDups (l : List String) : l.eraseDups.Nodup := by
  match l with
  | [] => exact List.nodup_nil
  | a :: l =>
    rw [List.eraseDups_cons, List.nodup_cons, List.mem_eraseDups, List.mem_filter]
    refine ⟨fun ⟨_, hne⟩ => ?_, nodup_eraseDups _⟩
    rw [beq_self_eq_true] at hne
    cases hne
termination_by l.length
decreasing_by exact Nat.lt_succ_of_le (List.length_filter_le _ l)

namespace OpenQasm

/-- The identifier that a statement declares. -/
def Statement.identifier? : Statement R → Option String
  | .qubits _ => some "q"
  | .bits name _ => some name
  | .version | .gate _ | .verbatimBox _ | .measure _ _ _ => none

theorem Statement.identifier?_of_not_declares {s : Statement R} (h : s.declares = false) :
    s.identifier? = none := by
  cases s with
  | version | qubits | bits => cases h
  | gate | verbatimBox | measure => rfl

/-- What is asked of the declarations in the program of a circuit. -/
structure Program.DeclaresInOrder (program : Program R) (c : Circuit R) : Prop where
  /-- No identifier is declared twice. -/
  distinct : (program.filterMap Statement.identifier?).Nodup
  /-- Defined registers are declared. -/
  defined : ∀ name length isOutput, .define .bit name length isOutput ∈ c.operations →
    ∃ width, .bits name width ∈ program
  /-- They have the bits that the circuit knows of. -/
  wide : ∀ name length, c.bitRegisterLength? name = some length →
    ∀ width, .bits name width ∈ program → length ≤ width
  /-- The register that all qubits are measured into is declared, and has room for them. -/
  room : ∀ readout, measureAllInto? c = some readout →
    ∃ width, .bits readout width ∈ program ∧ c.numberOfQubits ≤ width

end OpenQasm

open OpenQasm in
/-- Whether a circuit defines its registers so that they can be declared in order. -/
structure Circuit.DefinesPlainly (c : Circuit R) : Prop where
  /-- Only the qubits are called `q`. -/
  qubits : c.numberOfQubits ≠ 0 → "q" ∉ registerNames c ∧ measureAllInto? c ≠ some "q"
  /-- The register that all qubits are measured into is not defined without bits. -/
  readout : ∀ readout, measureAllInto? c = some readout → lastLength? c readout ≠ some 0
  /-- No register is defined again with fewer bits, or else there is room because all qubits are
  measured into it. -/
  lengths : ∀ name first last, c.bitRegisterLength? name = some first →
    lastLength? c name = some last →
    first ≤ last ∨ measureAllInto? c = some name ∧ first ≤ c.numberOfQubits

namespace OpenQasm

variable {c : Circuit R} {name readout : String}

/-! ### Names -/

theorem nodup_registerNames : (registerNames c).Nodup := nodup_eraseDups _

theorem mem_registerNames_of_bitRegisterLength? {length : Nat}
    (h : c.bitRegisterLength? name = some length) : name ∈ registerNames c := by
  obtain ⟨isOutput, hop⟩ := Circuit.exists_define_of_bitRegisterLength? h
  exact mem_registerNames.mpr ⟨length, isOutput, hop⟩

/-- A register is declared twice exactly if all qubits are measured into it and it is defined, with
no bits. -/
theorem nodup_names_iff : (registerNames c ++ c.addedRegister).Nodup ↔
    ∀ readout, measureAllInto? c = some readout → lastLength? c readout ≠ some 0 := by
  cases hall : measureAllInto? c with
  | none =>
    have hadded : c.addedRegister = [] := by rw [Circuit.addedRegister, hall]
    rw [hadded, List.append_nil]
    refine iff_of_true nodup_registerNames fun readout hnone => ?_
    cases hnone
  | some readout =>
    have hadded : c.addedRegister
        = if (lastLength? c readout).getD 0 = 0 then [readout] else [] := by
      rw [Circuit.addedRegister, hall]
    simp only [hadded, Option.some.injEq, forall_eq']
    cases hlast : lastLength? c readout with
    | none =>
      -- not defined, so that what is added is the only declaration
      have hnot := lastLength?_eq_none_iff.mp hlast
      rw [if_pos Option.getD_none]
      refine iff_of_true ?_ (Option.some_ne_none 0).symm
      refine List.nodup_append.mpr ⟨nodup_registerNames, List.nodup_singleton _, ?_⟩
      intro a ha b hb heq
      rw [heq, List.mem_singleton.mp hb] at ha
      exact hnot ha
    | some last =>
      have hdefined := exists_lastLength?_iff.mp ⟨last, hlast⟩
      rw [Option.getD_some]
      by_cases hzero : last = 0
      · rw [if_pos hzero, hzero]
        refine iff_of_false (fun hnodup => ?_) fun hne => hne rfl
        exact (List.nodup_append.mp hnodup).2.2 readout hdefined readout List.mem_cons_self rfl
      · rw [if_neg hzero, List.append_nil]
        exact iff_of_true nodup_registerNames fun heq => hzero (Option.some.inj heq)

/-! ### Programs -/

variable [Scalar R] {program : Program R}

/-- **The registers that a program declares**, with their widths. -/
theorem Program.bits_mem_iff (h : Program.ofCircuit c = .ok program) {width : Nat} :
    .bits name width ∈ program ↔
      (name ∈ registerNames c ∨ measureAllInto? c = some name) ∧ width = c.registerWidth name := by
  rw [Program.mem_iff_of_declares h rfl, bits_mem_declarations]

/-- **The identifiers that a program declares**, in order. -/
theorem Program.identifiers_eq (h : Program.ofCircuit c = .ok program) :
    program.filterMap Statement.identifier?
      = (if c.numberOfQubits = 0 then [] else ["q"]) ++ (registerNames c ++ c.addedRegister) := by
  obtain ⟨statements, hstatements, rfl⟩ := Program.of_ofCircuit h
  have hstatement : statements.filterMap Statement.identifier? = [] :=
    List.filterMap_eq_nil_iff.mpr fun s hs =>
      Statement.identifier?_of_not_declares (not_declares_of_mem_statements hstatements hs)
  have hmeasured : c.measurementsOfAll.filterMap Statement.identifier? = [] := by
    refine List.filterMap_eq_nil_iff.mpr fun s hs => ?_
    obtain ⟨_, _, -, -, rfl⟩ := mem_measurementsOfAll.mp hs
    rfl
  rw [List.filterMap_append, List.filterMap_append, hstatement, hmeasured, List.append_nil,
    List.append_nil, Circuit.declarations, List.filterMap_append, registers_eq, List.map_map,
    List.filterMap_map]
  congr 1
  · split
    · rfl
    · rfl
  · exact List.filterMap_some

/-- When no identifier is declared twice. -/
theorem Program.nodup_identifiers_iff (h : Program.ofCircuit c = .ok program) :
    (program.filterMap Statement.identifier?).Nodup ↔
      (c.numberOfQubits ≠ 0 → "q" ∉ registerNames c ∧ measureAllInto? c ≠ some "q") ∧
        ∀ readout, measureAllInto? c = some readout → lastLength? c readout ≠ some 0 := by
  rw [identifiers_eq h, ← nodup_names_iff]
  by_cases hqubits : c.numberOfQubits = 0
  · -- without qubits the name is free
    rw [if_pos hqubits, List.nil_append]
    exact (and_iff_right fun hne => absurd hqubits hne).symm
  · rw [if_neg hqubits, List.singleton_append, List.nodup_cons, mem_registerNames_append, not_or,
      forall_prop_of_true hqubits]

/-- When registers have the bits of their first definitions. -/
theorem Program.wide_iff (h : Program.ofCircuit c = .ok program) :
    (∀ name length, c.bitRegisterLength? name = some length →
      ∀ width, .bits name width ∈ program → length ≤ width) ↔
      ∀ name first last, c.bitRegisterLength? name = some first →
        lastLength? c name = some last →
        first ≤ last ∨ measureAllInto? c = some name ∧ first ≤ c.numberOfQubits := by
  constructor
  · intro hwide name first last hfirst hlast
    have hdefined := mem_registerNames_of_bitRegisterLength? hfirst
    rw [← le_registerWidth_iff hlast]
    exact hwide name first hfirst _ ((bits_mem_iff h).mpr ⟨.inl hdefined, rfl⟩)
  · intro hlengths name first hfirst width hwidth
    have hdefined := mem_registerNames_of_bitRegisterLength? hfirst
    obtain ⟨last, hlast⟩ := exists_lastLength?_iff.mpr hdefined
    obtain ⟨-, rfl⟩ := (bits_mem_iff h).mp hwidth
    rw [le_registerWidth_iff hlast]
    exact hlengths name first last hfirst hlast

/-- **Declarations in order.** A program declares what its circuit defines and what all qubits are
measured into; it does so in order exactly if the circuit defines its registers plainly. -/
theorem Program.declares_inOrder_iff (h : Program.ofCircuit c = .ok program) :
    (∀ name width, .bits name width ∈ program ↔
      (name ∈ registerNames c ∨ measureAllInto? c = some name) ∧ width = c.registerWidth name) ∧
      (program.DeclaresInOrder c ↔ c.DefinesPlainly) := by
  refine ⟨fun name width => bits_mem_iff h, fun hinOrder => ?inOrder, fun hplain => ?plain⟩
  case inOrder =>
    obtain ⟨hqubits, hreadout⟩ := (nodup_identifiers_iff h).mp hinOrder.distinct
    exact ⟨hqubits, hreadout, (wide_iff h).mp hinOrder.wide⟩
  case plain =>
    have hdistinct := (nodup_identifiers_iff h).mpr ⟨hplain.qubits, hplain.readout⟩
    -- the other two are kept whatever the circuit defines
    refine ⟨hdistinct, ?defined, (wide_iff h).mpr hplain.lengths, ?room⟩
    case defined =>
      intro name length isOutput hop
      have hdefined := mem_registerNames.mpr ⟨length, isOutput, hop⟩
      exact ⟨_, (bits_mem_iff h).mpr ⟨.inl hdefined, rfl⟩⟩
    case room =>
      intro readout hall
      exact ⟨_, (bits_mem_iff h).mpr ⟨.inr hall, rfl⟩, numberOfQubits_le_registerWidth hall⟩

/-- A register that is defined again with more bits, and has to have room for three qubits. -/
def widened : Circuit Float :=
  ⟨[.define .bit "ro" 1 true, .define .bit "log" 4 false, .single .pauliX 2,
    .define .bit "ro" 2 true, .setShots 10 "ro"]⟩

/-- It is declared once, with the three bits. -/
theorem Program.declares_inOrder_widened :
    ∃ program : Program Float, Program.ofCircuit widened = .ok program ∧
      program.DeclaresInOrder widened ∧ .bits "ro" 3 ∈ program := by
  obtain ⟨program, hprogram⟩ : ∃ program, Program.ofCircuit widened = .ok program := ⟨_, rfl⟩
  have hplain : widened.DefinesPlainly := by
    refine ⟨by decide, fun readout hall => ?_, fun name first last hfirst hlast => ?_⟩
    · cases hall
      decide
    · have hdefined := mem_registerNames_of_bitRegisterLength? hfirst
      have hnames : registerNames widened = ["ro", "log"] := by decide
      rw [hnames, List.mem_pair] at hdefined
      rcases hdefined with rfl | rfl
      · cases hfirst
        cases hlast
        exact .inl (by decide)
      · cases hfirst
        cases hlast
        exact .inl (by decide)
  obtain ⟨hbits, hinOrder⟩ := Program.declares_inOrder_iff hprogram
  exact ⟨program, hprogram, hinOrder.mpr hplain, (hbits "ro" 3).mpr (by decide)⟩

/-- The register for the results is defined without bits. -/
def emptyReadout : Circuit Float :=
  ⟨[.define .bit "ro" 0 true, .single .pauliX 0, .setShots 10 "ro"]⟩

/-- **A readout is declared twice.** That a circuit has a program does not mean that the program
declares in order. -/
theorem Program.readout_declaredTwice :
    ¬ ∀ (c : Circuit Float) (program : Program Float), Program.ofCircuit c = .ok program →
      program.DeclaresInOrder c := by
  intro h
  have hdistinct := (h emptyReadout _ rfl).distinct
  revert hdistinct
  decide

end OpenQasm

end CircuitDispatch
