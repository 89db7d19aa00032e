import CircuitDispatch.Plan.Metadata
import CircuitDispatch.Task.Samples

/-!
# Registers of samples

The samples of a circuit become the rows of its readout. Where the readout has
static bits, a measured row covers the first positions of the register, and the
static values stand in the others.
-/

namespace CircuitDispatch

/-- A measured row with the static bits behind it. -/
def StaticBits.complete (bits : StaticBits) (row : List Bool) : List Bool :=
  if row.length ≤ bits.registerLength && bits.registerLength ≤ bits.values.length then
    row ++ (bits.values.take bits.registerLength).drop row.length
  else row

/-- The registers of a circuit with these samples. -/
def CircuitMetadata.assemble {R : Type} (m : CircuitMetadata R) (samples : Samples) : Registers R :=
  let rows := match m.staticBits with
    | some bits => samples.bits.map bits.complete
    | none => samples.bits
  { bit := (∅ : RegisterMap Bool).insert m.readoutName rows
    float := m.floatRegisters
    complex := m.complexRegisters }

end CircuitDispatch
