import CircuitDispatch.Proofs.Json.Layout
import CircuitDispatch.Run.Snapshot

/-!
# Layouts of records of runs

The record of a circuit's run is read back if all numbers in its registers are finite
(`CircuitRecord.restores`), and the record of a measurement's run if the records of its circuits are
(`ProgramRecord.restores`). Each part of a record comes first: complex numbers, registers, static
bits, metadata and kinds.
-/

namespace CircuitDispatch

open Json

/-! ### Registers -/

theorem restores_complex : Restores complexOfJson? complexToJson
    fun z => z.1.isFinite && z.2.isFinite := by
  rintro ⟨re, im⟩
  rw [complexToJson, complexOfJson?, restores_float, restores_float]
  by_cases hre : re.isFinite = true
  · by_cases him : im.isFinite = true
    · simp [hre, him]
    · simp [hre, him]
  · simp [hre]

namespace RegisterMap

variable {Value : Type} {read : Json → Option Value} {write : Value → Json} {keep : Value → Bool}

/-- Whether every value in registers of one kind passes a test. -/
def allValues (keep : Value → Bool) (m : RegisterMap Value) : Bool :=
  m.entries.all fun e => e.2.all fun row => row.all keep

theorem restores (h : Restores read write keep) :
    Restores (RegisterMap.ofJson? read) (RegisterMap.toJson write) (allValues keep) :=
  h.list.list.map

@[simp] theorem allValues_true (m : RegisterMap Value) : allValues (fun _ => true) m = true := by
  simp [allValues]

end RegisterMap

namespace Registers

/-- Whether all numbers in registers are finite. -/
def isFinite (r : Registers Float) : Bool :=
  r.float.allValues Float.isFinite && r.complex.allValues fun z => z.1.isFinite && z.2.isFinite

theorem restores : Restores Registers.ofJson? Registers.toJson isFinite := by
  intro r
  have hbit := RegisterMap.restores restores_bool r.bit
  have hfloat := RegisterMap.restores restores_float r.float
  have hcomplex := RegisterMap.restores restores_complex r.complex
  have hfields : r.toJson.fields? ["bit", "float", "complex"]
      = some [.given _, .given _, .given _] := fields?_object (by simp)
  rw [Registers.ofJson?, hfields]
  simp [Field.withDefault?, hbit, hfloat, hcomplex, isFinite, ite_and]

end Registers

/-! ### Metadata -/

theorem StaticBits.restores : Restores StaticBits.ofJson? StaticBits.toJson fun _ => true := by
  intro bits
  have hlength := restores_natural bits.registerLength
  have hvalues := restores_bool.list bits.values
  have hfields : bits.toJson.fields? ["register_length", "values"] = some [.given _, .given _] :=
    fields?_object (by simp)
  rw [StaticBits.ofJson?, hfields]
  simp [Field.required?, hlength, hvalues]

namespace CircuitMetadata

/-- Whether all numbers in the output registers are finite. -/
def isFinite (m : CircuitMetadata Float) : Bool :=
  m.floatRegisters.allValues Float.isFinite
    && m.complexRegisters.allValues fun z => z.1.isFinite && z.2.isFinite

/-- The fields of written metadata; static bits that are not there have no member. -/
theorem fields?_toJson (m : CircuitMetadata Float) :
    m.toJson.fields? ["readout_name", "static_bits", "float_registers", "complex_registers"]
      = some [.given (.string m.readoutName),
        match m.staticBits with
        | some bits => .given bits.toJson
        | none => .unnamed,
        .given (m.floatRegisters.toJson .ofFloat),
        .given (m.complexRegisters.toJson complexToJson)] := by
  unfold toJson
  cases m.staticBits with
  | none => rfl
  | some bits => rfl

theorem restores : Restores CircuitMetadata.ofJson? CircuitMetadata.toJson isFinite := by
  rintro ⟨readoutName, staticBits, floatRegisters, complexRegisters⟩
  have hfloat := RegisterMap.restores restores_float floatRegisters
  have hcomplex := RegisterMap.restores restores_complex complexRegisters
  rw [CircuitMetadata.ofJson?, fields?_toJson]
  cases staticBits with
  | none => simp [Field.withDefault?, Field.required?, text?, hfloat, hcomplex, isFinite, ite_and]
  | some bits =>
    have hbits : optional? StaticBits.ofJson? bits.toJson = some (some bits) :=
      StaticBits.restores.option (by intro _ h; cases h) (some bits)
    simp [Field.withDefault?, Field.required?, text?, hbits, hfloat, hcomplex, isFinite, ite_and]

end CircuitMetadata

/-! ### Runs -/

theorem RunKind.restores : Restores RunKind.ofJson? RunKind.toJson fun _ => true := by
  intro kind
  cases kind with
  | onSite => rfl
  | remote => rfl

theorem MeasurementKind.restores :
    Restores MeasurementKind.ofJson? MeasurementKind.toJson fun _ => true := by
  intro kind
  cases kind <;> rfl

/-- A text that may be missing. -/
theorem restores_optionalText :
    Restores (optional? text?) (ofOption .string) fun _ => true := by
  intro o
  cases o with
  | none => rfl
  | some s => rfl

namespace CircuitRecord

/-- Whether all numbers in a record are finite. -/
def isFinite (r : CircuitRecord Float) : Bool :=
  r.metadata.isFinite && r.results.all Registers.isFinite

theorem restores : Restores CircuitRecord.ofJson? CircuitRecord.toJson isFinite := by
  intro r
  have hkind := RunKind.restores r.kind
  have htask := restores_optionalText r.taskIdentity
  have hregion := restores_optionalText r.region
  have hmetadata := CircuitMetadata.restores r.metadata
  have hresults := Registers.restores.option (by intro _ h; cases h) r.results
  have hfields : r.toJson.fields? ["kind", "task_identity", "region_or_locator", "metadata",
      "resolved_results"] = some [.given _, .given _, .given _, .given _, .given _] :=
    fields?_object (by simp)
  rw [CircuitRecord.ofJson?, hfields]
  simp [Field.required?, Field.withDefault?, hkind, htask, hregion, hmetadata, hresults, isFinite,
    ite_and]

end CircuitRecord

namespace ProgramRecord

theorem restores : Restores ProgramRecord.ofJson? ProgramRecord.toJson
    fun r => r.runs.all CircuitRecord.isFinite := by
  intro r
  have hkind := MeasurementKind.restores r.kind
  have hruns := CircuitRecord.restores.list r.runs
  have hfields : r.toJson.fields? ["measurement_kind", "measurement_payload", "circuit_runs"]
      = some [.given _, .given _, .given _] :=
    fields?_object (by simp)
  rw [ProgramRecord.ofJson?, hfields]
  simp [Field.required?, text?, hkind, hruns]

end ProgramRecord

end CircuitDispatch
