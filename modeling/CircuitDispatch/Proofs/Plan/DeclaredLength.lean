import CircuitDispatch.Proofs.Plan.Padding
import CircuitDispatch.Proofs.Sequencing

/-!
# Static bits and the declared length

`Circuit.add` compares a static bit with the length of its register, but only if the register is
declared by then: a declaration that comes later is not compared with the bits that are there
already, and concatenation compares nothing. So a finished circuit may set bits beyond the end of
the register that it declares, and the readout is then longer than declared
(`Construction.declaredLate_setsBeyond`).

`Construction.unchecked` collects the positions that were never compared with the length that counts
in the end. The other ones are within the register (`Construction.fitsExcept_unchecked`), so
everything fits exactly if these do (`Construction.fits_iff`). None is left unchecked where
a register is declared first and operations are added one by one
(`Circuit.setsBelow_of_declaredFirst`).
-/

namespace CircuitDispatch

variable {R : Type}

/-! ### One step -/

namespace Circuit

variable {c d : Circuit R} {readout : String} {n : Nat}

/-- Whether a circuit sets only the first bits of a register. -/
def SetsBelow (c : Circuit R) (readout : String) (n : Nat) : Prop :=
  ∀ index value, .inputBit readout index value ∈ c.operations → index < n

/-- The positions of a register that a circuit sets. -/
def setPositions (c : Circuit R) (readout : String) : List Nat :=
  (c.inputBits readout).map (·.1)

theorem mem_setPositions {i : Nat} :
    i ∈ c.setPositions readout ↔ ∃ value, .inputBit readout i value ∈ c.operations := by
  simp only [setPositions, List.mem_map, Prod.exists, exists_and_right, exists_eq_right,
    mem_inputBits]

theorem setsBelow_iff : c.SetsBelow readout n ↔ ∀ i ∈ c.setPositions readout, i < n := by
  simp only [SetsBelow, mem_setPositions, forall_exists_index]

theorem setPositions_append (c d : Circuit R) (readout : String) :
    (c ++ d).setPositions readout = c.setPositions readout ++ d.setPositions readout := by
  rw [setPositions, inputBits_append, List.map_append]
  rfl

/-- A circuit of one operation. -/
def single (op : Operation R) : Circuit R := ⟨[op]⟩

/-- **Adding an operation** compares what it sets with the length that is declared so far. -/
theorem of_add (readout : String) {op : Operation R} (h : c.add op = .ok d) :
    d = c ++ single op ∧ ∀ i ∈ (single op).setPositions readout,
      ∀ n, c.bitRegisterLength? readout = some n → i < n := by
  obtain ⟨_, -, hrest⟩ := bind_eq_ok_iff.mp h
  obtain ⟨_, hcheck, hd⟩ := bind_eq_ok_iff.mp hrest
  refine ⟨(pure_eq_ok_iff.mp hd).symm, fun i hi n hn => ?_⟩
  obtain ⟨value, hop⟩ := mem_setPositions.mp hi
  obtain rfl : .inputBit readout i value = op := List.mem_singleton.mp hop
  by_contra hout
  rw [checkInputBit, hn] at hcheck
  simp only [if_pos (Nat.not_lt.mp hout)] at hcheck
  cases hcheck

/-- What is added to a register that is declared stays within it. -/
theorem setsBelow_of_add {op : Operation R} (h : c.add op = .ok d) (hc : c.SetsBelow readout n)
    (hdeclared : c.bitRegisterLength? readout = some n) :
    d.SetsBelow readout n ∧ d.bitRegisterLength? readout = some n := by
  obtain ⟨rfl, hnew⟩ := of_add readout h
  constructor
  · rw [setsBelow_iff, setPositions_append, List.forall_mem_append]
    exact ⟨setsBelow_iff.mp hc, fun i hi => hnew i hi n hdeclared⟩
  · rw [bitRegisterLength?_append, hdeclared, Option.some_or]

/-- **A register that is declared first** is not left by the operations that follow. -/
theorem setsBelow_of_declaredFirst {isOutput : Bool} {ops : List (Operation R)}
    (h : ofOperations (.define .bit readout n isOutput :: ops) = .ok c) :
    c.SetsBelow readout n ∧ c.bitRegisterLength? readout = some n := by
  obtain ⟨start, hstart, hrest⟩ := foldlM_cons_eq_ok_iff.mp h
  have hinit : start.SetsBelow readout n ∧ start.bitRegisterLength? readout = some n := by
    obtain ⟨rfl, -⟩ := of_add readout hstart
    constructor
    · intro index value hop
      cases List.mem_singleton.mp hop
    · show List.findSome? _ [Operation.define .bit readout n isOutput] = some n
      simp
  exact foldlM_invariant (fun c => c.SetsBelow readout n ∧ c.bitRegisterLength? readout = some n)
    (fun op _ s t hs hadd => setsBelow_of_add hadd hs.1 hs.2) hinit hrest

/-- Whether the positions of a register that a circuit sets are within it, but for some that are
listed. -/
def FitsExcept (c : Circuit R) (readout : String) (unchecked : List Nat) : Prop :=
  ∀ i ∈ c.setPositions readout,
    i ∈ unchecked ∨ ∃ n, c.bitRegisterLength? readout = some n ∧ i < n

/-- **Two parts of a circuit.** If the first declares the register, this is the length that counts
for the second. -/
theorem FitsExcept.append {u v : List Nat} (hc : c.FitsExcept readout u)
    (hdeclared : ∀ n, c.bitRegisterLength? readout = some n →
      ∀ i ∈ d.setPositions readout, i ∈ v ∨ i < n)
    (hundeclared : c.bitRegisterLength? readout = none → d.FitsExcept readout v) :
    (c ++ d).FitsExcept readout (u ++ v) := by
  intro i hi
  rw [setPositions_append, List.mem_append] at hi
  rw [List.mem_append, bitRegisterLength?_append]
  cases hlength : c.bitRegisterLength? readout with
  | none =>
    rw [Option.none_or]
    rcases hi with hi | hi
    · -- without a declaration nothing is known to be in range, so the position is listed
      rcases hc i hi with hu | ⟨n, hn, -⟩
      · exact .inl (.inl hu)
      · rw [hlength] at hn
        cases hn
    · exact (hundeclared hlength i hi).imp_left .inr
  | some n =>
    rw [Option.some_or]
    rcases hi with hi | hi
    · rw [← hlength]
      exact (hc i hi).imp_left .inl
    · rcases hdeclared n hlength i hi with hv | hlt
      · exact .inl (.inr hv)
      · exact .inr ⟨n, rfl, hlt⟩

end Circuit

/-! ### Whole constructions -/

/-- How a circuit is put together, out of operations and of other circuits. -/
inductive Construction (R : Type) where
  | empty
  | add (before : Construction R) (op : Operation R)
  | append (first second : Construction R)

namespace Construction

/-- The circuit that is put together, if every operation is accepted when it is added. -/
def run : Construction R → Except CircuitError (Circuit R)
  | empty => .ok .empty
  | add before op => before.run >>= fun c => c.add op
  | append first second => first.run >>= fun c => second.run >>= fun d => pure (c ++ d)

/-- The circuit that is put together, accepted or not. -/
def circuit : Construction R → Circuit R
  | empty => .empty
  | add before op => before.circuit ++ .single op
  | append first second => first.circuit ++ second.circuit

/-- The positions of a register that were never compared with the length that counts in the end. -/
def unchecked (readout : String) : Construction R → List Nat
  | empty => []
  | add before op => before.unchecked readout ++
      if (before.circuit.bitRegisterLength? readout).isSome then []
      else (Circuit.single op).setPositions readout
  | append first second => first.unchecked readout ++
      -- whatever the second part was compared with, it is not the length that the first declares
      if (first.circuit.bitRegisterLength? readout).isSome then second.circuit.setPositions readout
      else second.unchecked readout

variable {k : Construction R} {c : Circuit R} {readout : String} {n : Nat}

theorem eq_circuit_of_run (h : k.run = .ok c) : c = k.circuit := by
  induction k generalizing c with
  | empty => exact (Except.ok.inj h).symm
  | add before op ih =>
    obtain ⟨d, hd, hadd⟩ := bind_eq_ok_iff.mp h
    rw [circuit, ← ih hd]
    exact (Circuit.of_add "" hadd).1
  | append first second ih ih' =>
    obtain ⟨d, hd, hrest⟩ := bind_eq_ok_iff.mp h
    obtain ⟨d', hd', hc⟩ := bind_eq_ok_iff.mp hrest
    rw [circuit, ← ih hd, ← ih' hd', pure_eq_ok_iff.mp hc]

/-- What is unchecked is set. -/
theorem unchecked_subset (k : Construction R) (readout : String) :
    k.unchecked readout ⊆ k.circuit.setPositions readout := by
  induction k with
  | empty => exact List.nil_subset _
  | add before op ih =>
    rw [unchecked, circuit, Circuit.setPositions_append]
    refine List.append_subset.mpr
      ⟨List.subset_append_of_subset_left _ ih, List.subset_append_of_subset_right _ ?_⟩
    split
    · exact List.nil_subset _
    · exact List.Subset.refl _
  | append first second ih ih' =>
    rw [unchecked, circuit, Circuit.setPositions_append]
    refine List.append_subset.mpr
      ⟨List.subset_append_of_subset_left _ ih, List.subset_append_of_subset_right _ ?_⟩
    split
    · exact List.Subset.refl _
    · exact ih'

/-- **What is checked is in range.** -/
theorem fitsExcept_unchecked (readout : String) (h : k.run = .ok c) :
    k.circuit.FitsExcept readout (k.unchecked readout) := by
  -- by induction on the construction, whose last step puts two parts in a row
  induction k generalizing c with
  | empty => exact List.forall_mem_nil _
  | add before op ih =>
    obtain ⟨d, hd, hadd⟩ := bind_eq_ok_iff.mp h
    obtain ⟨-, hnew⟩ := Circuit.of_add readout hadd
    rw [eq_circuit_of_run hd] at hnew
    refine (ih hd).append (fun n hn i hi => .inr (hnew i hi n hn)) (fun hnone i hi => .inl ?_)
    simpa [hnone] using hi
  | append first second ih ih' =>
    obtain ⟨d, hd, hrest⟩ := bind_eq_ok_iff.mp h
    obtain ⟨d', hd', -⟩ := bind_eq_ok_iff.mp hrest
    refine (ih hd).append (fun n hn i hi => .inl ?_) (fun hnone => ?_)
    · simpa [hn] using hi
    · simpa [hnone] using ih' hd'

/-- A finished circuit stays within a register exactly if what is unchecked does. -/
theorem setsBelow_iff (hrun : k.run = .ok c) (hdeclared : c.bitRegisterLength? readout = some n) :
    c.SetsBelow readout n ↔ ∀ i ∈ k.unchecked readout, i < n := by
  have hfits := fitsExcept_unchecked readout hrun
  rw [Circuit.setsBelow_iff]
  obtain rfl := eq_circuit_of_run hrun
  constructor
  · intro hbelow i hi
    exact hbelow i (k.unchecked_subset readout hi)
  · intro hunchecked i hi
    rcases hfits i hi with hmem | ⟨m, hm, hlt⟩
    · exact hunchecked i hmem
    · obtain rfl : n = m := Option.some.inj (hdeclared.symm.trans hm)
      exact hlt

end Construction

/-- The readout is as long as declared exactly if nothing is set beyond it. -/
theorem CircuitMetadata.registerLength_eq_iff {c : Circuit R} {readout : String} {n : Nat}
    {bits : StaticBits} (hbits : (ofCircuit c readout).staticBits = some bits)
    (hdeclared : c.bitRegisterLength? readout = some n) :
    bits.registerLength = n ↔ c.SetsBelow readout n := by
  have hlength := staticLength_of_staticBits hbits
  constructor
  · rintro rfl index value hop
    exact hlength.greatest.2 (.inr ⟨index, value, hop, rfl⟩)
  · intro hbelow
    refine le_antisymm ?_ (hlength.greatest.2 (.inl hdeclared))
    rcases hlength.greatest.1 with hlast | ⟨index, value, hop, hlast⟩
    · exact (Option.some.inj (hlast.symm.trans hdeclared)).le
    · exact hlast.trans_le (hbelow index value hop)

namespace Construction

/-- **When static bits fit.** In a circuit that is put together, they are within the register that
the circuit declares, and its readout is as long as declared, exactly if those that were never
compared with the declared length are within it. -/
theorem fits_iff {k : Construction R} {c : Circuit R} {readout : String} {n : Nat}
    (hrun : k.run = .ok c) (hdeclared : c.bitRegisterLength? readout = some n) :
    (c.SetsBelow readout n ↔ ∀ i ∈ k.unchecked readout, i < n) ∧
      ∀ bits, (CircuitMetadata.ofCircuit c readout).staticBits = some bits →
        (bits.registerLength = n ↔ ∀ i ∈ k.unchecked readout, i < n) := by
  have hbelow := setsBelow_iff hrun hdeclared
  refine ⟨hbelow, fun bits hbits => ?_⟩
  exact (CircuitMetadata.registerLength_eq_iff hbits hdeclared).trans hbelow

/-- A register is declared and a bit of it is set, and a circuit that sets another one follows. -/
def setInParts : Construction Float :=
  .append (.add (.add .empty (.define .bit "ro" 3 true)) (.inputBit "ro" 2 true))
    (.add .empty (.inputBit "ro" 1 true))

/-- The bit of the second part is not checked, but within the register. -/
theorem fits_iff_setInParts :
    ∃ (c : Circuit Float) (bits : StaticBits), setInParts.run = .ok c ∧
      c.bitRegisterLength? "ro" = some 3 ∧ setInParts.unchecked "ro" = [1] ∧
      (CircuitMetadata.ofCircuit c "ro").staticBits = some bits ∧
      c.SetsBelow "ro" 3 ∧ bits.registerLength = 3 := by
  obtain ⟨c, bits, hrun, hdeclared, hbits⟩ : ∃ c bits, setInParts.run = .ok c ∧
      c.bitRegisterLength? "ro" = some 3 ∧
      (CircuitMetadata.ofCircuit c "ro").staticBits = some bits := ⟨_, _, rfl, rfl, rfl⟩
  have hunchecked : setInParts.unchecked "ro" = [1] := rfl
  have hbelow : ∀ i ∈ setInParts.unchecked "ro", i < 3 := by decide
  obtain ⟨hsets, hlength⟩ := fits_iff hrun hdeclared
  exact ⟨c, bits, hrun, hdeclared, hunchecked, hbits, hsets.mpr hbelow,
    (hlength bits hbits).mpr hbelow⟩

/-- A bit is set before its register is declared. -/
def declaredLate : Construction Float :=
  .add (.add .empty (.inputBit "ro" 5 true)) (.define .bit "ro" 3 true)

/-- **A late declaration is not checked**: every operation is accepted, and the readout is longer
than declared. -/
theorem declaredLate_setsBeyond :
    ¬ ∀ (k : Construction Float) (c : Circuit Float) (readout : String) (n : Nat),
      k.run = .ok c → c.bitRegisterLength? readout = some n →
      c.SetsBelow readout n ∧ ∀ bits,
        (CircuitMetadata.ofCircuit c readout).staticBits = some bits →
        bits.registerLength = n := by
  intro h
  obtain ⟨hbelow, -⟩ := h declaredLate _ "ro" 3 rfl rfl
  have hlt : 5 < 3 := hbelow 5 true List.mem_cons_self
  omega

end Construction

end CircuitDispatch
