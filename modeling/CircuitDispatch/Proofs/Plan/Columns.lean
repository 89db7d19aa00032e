import CircuitDispatch.Plan.Assembly
import CircuitDispatch.Proofs.Dispatch.Submission
import CircuitDispatch.Proofs.Native.Placement
import CircuitDispatch.Proofs.OpenQasm.OfBlock

/-!
# The columns of native results

A native program measures every qubit of the circuit, and in the order of the qubits: a qubit stands
in the column of its rank, and its row of the readout begins with the columns as they are
(`Plan.verbatim_columns`). So a measurement of the circuit ends up at the index that it names
exactly if this index is the rank of the qubit.

A circuit may name other indices, without ambiguity (`Circuit.ReadsInto`): then the bits of the
readout are those of other qubits (`Plan.columns_swapped`).
-/

namespace CircuitDispatch

variable {R : Type}

/-- The bit of the readout that a measurement names. -/
def Operation.readoutIndex? : Operation R → Option Nat
  | .measure _ _ index => some index
  | _ => none

/-- Whether the measurements of a circuit name one readout, and different bits of it. -/
structure Circuit.ReadsInto (c : Circuit R) (readout : String) : Prop where
  named : ∀ q name index, .measure q name index ∈ c.operations → name = readout
  distinct : (c.operations.filterMap Operation.readoutIndex?).Nodup

/-- What stands where in the results of a native program. -/
structure Plan.ColumnsByRank [Scalar R] (plan : Plan R) (block : NativeBlock R) (c : Circuit R) :
    Prop where
  /-- The column of a qubit is its rank. -/
  column : ∀ q ∈ c.qubits, ∀ i, block.measured[i]? = some q ↔ i = c.rank q
  /-- So a measurement has the column that it names exactly if it names the rank of its qubit. -/
  named : ∀ q readout i, .measure q readout i ∈ c.operations →
    (block.measured[i]? = some q ↔ i = c.rank q)
  /-- The program measures the qubit into this column, and nowhere else. -/
  measured : ∀ program, OpenQasm.Program.ofBlock block = .ok program → ∀ q ∈ c.qubits,
    ∀ register i, .measure register i (.physical (block.physical q)) ∈ program ↔
      register = "b" ∧ i = c.rank q
  /-- Each row of the readout begins with the columns in their order. -/
  rows : ∀ samples, ∃ rows,
    (plan.metadata.assemble samples).bit.get? plan.metadata.readoutName = some rows ∧
      List.Forall₂ (· <+: ·) samples.bits rows

/-- Static bits come after the measured ones. -/
theorem StaticBits.prefix_complete (bits : StaticBits) (row : List Bool) :
    row <+: bits.complete row := by
  unfold complete
  split
  · exact List.prefix_append row _
  · exact List.prefix_rfl

/-- **Assembling keeps columns in place.** -/
theorem CircuitMetadata.assemble_rows (m : CircuitMetadata R) (samples : Samples) :
    ∃ rows, (m.assemble samples).bit.get? m.readoutName = some rows ∧
      List.Forall₂ (· <+: ·) samples.bits rows := by
  refine ⟨_, SortedMap.get?_insert_self _ _ _, ?_⟩
  split
  · next bits _ =>
    rw [List.forall₂_map_right_iff, List.forall₂_same]
    exact fun row _ => bits.prefix_complete row
  · exact List.forall₂_same.mpr fun row _ => List.prefix_rfl

namespace Plan

variable [Scalar R] {config : Config} {c : Circuit R} {plan : Plan R} {block : NativeBlock R}

/-- A native program is lowered from the circuit. -/
theorem lower_of_make (hplan : Plan.make config c = .ok plan)
    (hblock : plan.program = .verbatim block) : ∃ family : Family, family.lower c = .ok block := by
  obtain ⟨_, family, -, -, -, hprogram, -⟩ := Plan.of_make hplan
  rw [hblock] at hprogram
  cases family with
  | none =>
    -- without a family the program is a text
    obtain ⟨_, -, htext⟩ := map_eq_ok_iff.mp hprogram
    cases htext
  | some family =>
    obtain ⟨lowered, hlower, hverbatim⟩ := map_eq_ok_iff.mp hprogram
    obtain rfl := DeviceProgram.verbatim.inj hverbatim
    exact ⟨family, mapError_eq_ok_iff.mp hlower⟩

/-- **Columns by rank.** -/
theorem verbatim_columns (hplan : Plan.make config c = .ok plan)
    (hblock : plan.program = .verbatim block) : plan.ColumnsByRank block c := by
  obtain ⟨family, hlower⟩ := lower_of_make hplan hblock
  obtain ⟨-, -, hmeasured, -⟩ := Family.of_lower hlower
  have hcolumn : ∀ q ∈ c.qubits, ∀ i, block.measured[i]? = some q ↔ i = c.rank q := by
    intro q hq i
    rw [hmeasured]
    exact Circuit.getElem?_qubits_eq_some_iff hq
  refine ⟨hcolumn, ?named, ?measured, plan.metadata.assemble_rows⟩
  case named =>
    intro q readout i hop
    exact hcolumn q (Circuit.mem_qubits.mpr ⟨_, hop, List.mem_cons_self⟩) i
  case measured =>
    intro program hprogram q hq register i
    rw [OpenQasm.Program.measure_mem_iff hprogram, ← hcolumn q hq]
    refine and_congr_right fun _ => ⟨?_, fun hi => ⟨q, hi, rfl⟩⟩
    rintro ⟨p, hp, hphysical⟩
    -- no other qubit has the same place
    have hpc : p ∈ c.qubits := hmeasured ▸ List.mem_of_getElem? hp
    obtain rfl := (Family.physical_inj hlower hq hpc).mp (OpenQasm.Operand.physical.inj hphysical)
    exact hp

/-- Two qubits, each read into the bit that has the other's number. -/
def crossed : Circuit Float := ⟨[.measure 0 "ro" 1, .measure 1 "ro" 0]⟩

/-- Crossed measurements stand in the columns in the order of the qubits. -/
theorem verbatim_columns_crossed :
    ∃ (plan : Plan Float) (block : NativeBlock Float),
      Plan.make ((Config.forDevice "sv1").forcing .ionq) crossed = .ok plan ∧
        plan.program = .verbatim block ∧ plan.ColumnsByRank block crossed ∧
        block.measured = [0, 1] := by
  obtain ⟨plan, block, hplan, hblock, hmeasured⟩ : ∃ plan block,
      Plan.make ((Config.forDevice "sv1").forcing .ionq) crossed = .ok plan ∧
        plan.program = .verbatim block ∧ block.measured = [0, 1] := ⟨_, _, rfl, rfl, rfl⟩
  exact ⟨plan, block, hplan, hblock, verbatim_columns hplan hblock, hmeasured⟩

/-- **Crossed measurements are swapped.** That the measurements of a circuit name different bits of
one readout does not mean that their qubits stand in these columns. -/
theorem columns_swapped :
    ¬ ∀ (config : Config) (c : Circuit Float) (plan : Plan Float) (block : NativeBlock Float),
      Plan.make config c = .ok plan → plan.program = .verbatim block →
      c.ReadsInto plan.metadata.readoutName →
      ∀ q i, .measure q plan.metadata.readoutName i ∈ c.operations →
        block.measured[i]? = some q := by
  intro h
  have hreads : crossed.ReadsInto "ro" := by
    refine ⟨fun q name index hmem => ?_, by decide⟩
    simp only [crossed, List.mem_cons, Operation.measure.injEq, List.not_mem_nil, or_false] at hmem
    obtain ⟨-, hname, -⟩ | ⟨-, hname, -⟩ := hmem
    · exact hname
    · exact hname
  have hcolumn := h ((Config.forDevice "sv1").forcing .ionq) crossed _ _ rfl rfl hreads 0 1
    List.mem_cons_self
  cases hcolumn

end Plan

end CircuitDispatch
