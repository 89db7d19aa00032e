import CircuitDispatch.Circuit.Layout
import CircuitDispatch.Proofs.Json.Layout

/-!
# Layouts of angles, operations and circuits

An angle is read back if its constants are finite (`Angle.restores`), an operation if its angles
are and if it maps no qubits (`Operation.restores`), and a circuit if its operations are
(`Circuit.restores`). Everything else is refused, since a constant that is not finite is written
as `null`, and the keys of a mapping are written as texts.

What the texts need beside that: numbers within a machine word (`Circuit.FitsWords`), constants
whose texts read back, and angles that are not too deep (`Circuit.printable`).
-/

namespace CircuitDispatch

open Json

variable {R : Type}

/-! ### Angles -/

namespace Angle

/-- The constants of an angle. -/
def constants : Angle R → List R
  | .constant v => [v]
  | .symbol _ => []
  | .pi => []
  | .neg a => a.constants
  | .add a b => a.constants ++ b.constants
  | .sub a b => a.constants ++ b.constants
  | .mul a b => a.constants ++ b.constants
  | .div a b => a.constants ++ b.constants

/-- The number of objects and arrays around each other in the layout of an angle. -/
def nesting : Angle R → Nat
  | .constant _ => 1
  | .symbol _ => 1
  | .pi => 0
  | .neg a => a.nesting + 1
  | .add a b => max a.nesting b.nesting + 2
  | .sub a b => max a.nesting b.nesting + 2
  | .mul a b => max a.nesting b.nesting + 2
  | .div a b => max a.nesting b.nesting + 2

/-- Whether all constants of an angle are finite. -/
def isFinite (a : Angle Float) : Bool := a.constants.all Float.isFinite

@[simp] theorem isFinite_constant (v : Float) : (constant v).isFinite = v.isFinite :=
  Bool.and_true _

@[simp] theorem isFinite_symbol (name : String) : (symbol name).isFinite = true := rfl

@[simp] theorem isFinite_pi : (pi : Angle Float).isFinite = true := rfl

@[simp] theorem isFinite_neg (a : Angle Float) : (neg a).isFinite = a.isFinite := by
  rw [isFinite, isFinite, constants]

@[simp] theorem isFinite_add (a b : Angle Float) :
    (add a b).isFinite = (a.isFinite && b.isFinite) := List.all_append

@[simp] theorem isFinite_sub (a b : Angle Float) :
    (sub a b).isFinite = (a.isFinite && b.isFinite) := List.all_append

@[simp] theorem isFinite_mul (a b : Angle Float) :
    (mul a b).isFinite = (a.isFinite && b.isFinite) := List.all_append

@[simp] theorem isFinite_div (a b : Angle Float) :
    (div a b).isFinite = (a.isFinite && b.isFinite) := List.all_append

/-- Two operands are read back together. -/
theorem operands?_toJson {empty : EmptyPayload} {a b : Angle Float}
    (ha : ofJson? empty a.toJson = if a.isFinite then some a else none)
    (hb : ofJson? empty b.toJson = if b.isFinite then some b else none) :
    operands? empty (.array [a.toJson, b.toJson])
      = if a.isFinite && b.isFinite then some (a, b) else none := by
  rw [operands?, ha, hb]
  by_cases hfa : a.isFinite = true
  · by_cases hfb : b.isFinite = true
    · simp [hfa, hfb]
    · simp [hfa, hfb]
  · simp [hfa]

/-- **Angles** are read back if their constants are finite. -/
theorem restores (empty : EmptyPayload) : Restores (ofJson? empty) toJson isFinite := by
  intro a
  induction a with
  | constant v =>
    have hv := restores_float v
    simp [toJson, tagged, ofJson?, hv]
  | symbol name => simp [toJson, tagged, ofJson?, text?]
  | pi => simp [toJson, ofJson?]
  | neg a ih => simp [toJson, tagged, ofJson?, ih]
  | add a b iha ihb | sub a b iha ihb | mul a b iha ihb | div a b iha ihb =>
    simp [toJson, tagged, ofJson?, operands?_toJson iha ihb]

/-- A written angle has no part that cannot be read. -/
theorem readable_toJson (a : Angle Float) : a.toJson.readable = true := by
  induction a with
  | constant v =>
    simp only [toJson, tagged, readable, readableMembers, Bool.and_true, ofFloat]
    split
    · rfl
    · rfl
  | symbol name => rfl
  | pi => rfl
  | neg a ih => simp [toJson, tagged, readable, readableMembers, ih]
  | add a b iha ihb | sub a b iha ihb | mul a b iha ihb | div a b iha ihb =>
    simp [toJson, tagged, readable, readableMembers, readableItems, iha, ihb]

/-- An angle that is not too deep has a text that reads back if its constants have. -/
theorem printable {depth : Nat} {a : Angle Float} (hnesting : a.nesting ≤ depth)
    (hconstants : ∀ v ∈ a.constants, v.isFinite = true → ReadsBack v) :
    Printable depth a.toJson := by
  induction a generalizing depth with
  | constant v =>
    obtain ⟨n, rfl⟩ := Nat.exists_eq_add_one_of_ne_zero (Nat.ne_zero_of_lt hnesting)
    exact .tagged (.ofFloat (hconstants v List.mem_cons_self))
  | symbol name =>
    obtain ⟨n, rfl⟩ := Nat.exists_eq_add_one_of_ne_zero (Nat.ne_zero_of_lt hnesting)
    exact .tagged .string
  | pi => exact .string
  | neg a ih =>
    obtain ⟨n, rfl⟩ := Nat.exists_eq_add_one_of_ne_zero (Nat.ne_zero_of_lt hnesting)
    exact .tagged (ih (Nat.le_of_succ_le_succ hnesting) hconstants)
  | add a b iha ihb | sub a b iha ihb | mul a b iha ihb | div a b iha ihb =>
    have ha := iha (Nat.le_max_left a.nesting b.nesting) fun v hv =>
      hconstants v (List.mem_append_left _ hv)
    have hb := ihb (Nat.le_max_right a.nesting b.nesting) fun v hv =>
      hconstants v (List.mem_append_right _ hv)
    -- both operands stand in an array, and the array in an object
    refine Printable.mono (.tagged (.array fun item hitem => ?_)) hnesting
    rcases List.mem_pair.mp hitem with rfl | rfl
    · exact ha
    · exact hb

end Angle

/-! ### Operations -/

namespace Operation

/-- Whether an operation maps no qubits. -/
def mapsNothing : Operation R → Bool
  | .repeatMeasurement _ _ (some m) => m.isEmpty
  | _ => true

/-- Whether an operation is read back from its layout. -/
def isRestorable (op : Operation Float) : Bool := op.angles.all Angle.isFinite && op.mapsNothing

/-! #### Families of operations -/

section Readers

variable (theta : Angle Float) (qubit control target : Nat)

theorem angle?_toJson :
    angle? (.given theta.toJson) = if theta.isFinite then some theta else none :=
  Angle.restores .orEmptyObject theta

theorem single?_object (gate : SingleGate Float) :
    single? gate (.object [("qubit", .natural qubit)]) = some (.single gate qubit) := by
  have hfields : fields? ["qubit"] (.object [("qubit", .natural qubit)])
      = some [.given (.natural qubit)] := fields?_object (by simp)
  simp [single?, hfields]

theorem rotation?_object (gate : Angle Float → SingleGate Float) :
    rotation? gate (.object [("qubit", .natural qubit), ("theta", theta.toJson)])
      = if theta.isFinite then some (.single (gate theta) qubit) else none := by
  have hfields : fields? ["qubit", "theta"]
      (.object [("qubit", .natural qubit), ("theta", theta.toJson)])
      = some [.given (.natural qubit), .given theta.toJson] := fields?_object (by simp)
  simp [rotation?, hfields, angle?_toJson]

theorem pair?_object (gate : PairGate Float) :
    pair? gate (.object [("control", .natural control), ("target", .natural target)])
      = some (.pair gate control target) := by
  have hfields : fields? ["control", "target"]
      (.object [("control", .natural control), ("target", .natural target)])
      = some [.given (.natural control), .given (.natural target)] := fields?_object (by simp)
  simp [pair?, hfields]

theorem interaction?_object (gate : Angle Float → PairGate Float) :
    interaction? gate (.object
        [("control", .natural control), ("target", .natural target), ("theta", theta.toJson)])
      = if theta.isFinite then some (.pair (gate theta) control target) else none := by
  have hfields : fields? ["control", "target", "theta"] (.object
        [("control", .natural control), ("target", .natural target), ("theta", theta.toJson)])
      = some [.given (.natural control), .given (.natural target), .given theta.toJson] :=
    fields?_object (by simp)
  simp [interaction?, hfields, angle?_toJson]

theorem define?_object (kind : RegisterKind) (name : String) (length : Nat) (isOutput : Bool) :
    define? kind (.object
        [("name", .string name), ("length", .natural length), ("is_output", .bool isOutput)])
      = some (.define kind name length isOutput) := by
  have hfields : fields? ["name", "length", "is_output"] (.object
        [("name", .string name), ("length", .natural length), ("is_output", .bool isOutput)])
      = some [.given (.string name), .given (.natural length), .given (.bool isOutput)] :=
    fields?_object (by simp)
  simp [define?, hfields]

end Readers

/-! #### All operations -/

theorem restores_mapping : Restores mapping? mappingToJson SortedMap.isEmpty := by
  rintro ⟨entries, hsorted⟩
  cases entries with
  | nil => rfl
  | cons e rest => rfl

theorem readable_mappingToJson (m : SortedMap Nat Nat) : (mappingToJson m).readable = true := by
  rw [mappingToJson, readable]
  induction m.entries with
  | nil => rfl
  | cons e rest ih =>
    rw [List.map_cons, readableMembers, ih]
    rfl

/-- A written operation has no part that cannot be read. -/
theorem readable_toJson (op : Operation Float) : op.toJson.readable = true := by
  have hmembers : readableMembers op.fields = true := by
    cases op with
    | single gate qubit =>
      cases gate <;>
        simp [fields, singleFields, readableMembers, Angle.readable_toJson, natural, readable]
    | pair gate control target =>
      cases gate <;>
        simp [fields, pairFields, readableMembers, Angle.readable_toJson, natural, readable]
    | repeatMeasurement readout shots mapping =>
      cases mapping with
      | none => rfl
      | some m => simp [fields, readableMembers, readable_mappingToJson, natural, readable]
    | globalPhase phase => simp [fields, readableMembers, Angle.readable_toJson]
    | define | inputBit | measure | setShots => rfl
  rw [toJson, readable, readableMembers, hmembers]
  rfl

/-- The name and the fields of a written operation. -/
theorem body?_toJson (op : Operation Float) :
    body? op.toJson = some (op.tag, .object op.fields) := by
  have hnames : ∀ m ∈ op.fields, m.1 ≠ "type" := by
    cases op with
    | single gate qubit => cases gate <;> simp [fields, singleFields]
    | pair gate control target => cases gate <;> simp [fields, pairFields]
    | repeatMeasurement readout shots mapping => cases mapping <;> simp [fields]
    | define | inputBit | measure | setShots | globalPhase => simp [fields]
  have htype : op.fields.filter (fun m => m.1 == "type") = [] :=
    List.filter_eq_nil_iff.mpr fun m hm => by simpa using hnames m hm
  have hothers : op.fields.filter (fun m => m.1 != "type") = op.fields :=
    List.filter_eq_self.mpr fun m hm => by simpa using hnames m hm
  simp [toJson, body?, htype, hothers]

/-- The fields of an operation make the operation again, if they can be read. -/
theorem ofBody?_fields (op : Operation Float) :
    ofBody? op.tag (.object op.fields) = if op.isRestorable then some op else none := by
  cases op with
  | single gate qubit =>
    cases gate with
    | rotateZ theta | rotateX theta | rotateY theta | gpi theta | gpi2 theta =>
      simp [tag, SingleGate.tag, ofBody?, fields, singleFields, rotation?_object, isRestorable,
        mapsNothing, angles, SingleGate.angles]
    | rotateXY theta phi =>
      have hfields : fields? ["qubit", "theta", "phi"]
          (.object (fields (.single (.rotateXY theta phi) qubit)))
          = some [.given (.natural qubit), .given theta.toJson, .given phi.toJson] :=
        fields?_object (by simp [fields, singleFields])
      simp [tag, SingleGate.tag, ofBody?, hfields, angle?_toJson, isRestorable, mapsNothing,
        angles, SingleGate.angles, ite_and]
    | _ =>
      simp [tag, SingleGate.tag, ofBody?, fields, singleFields, single?_object, isRestorable,
        mapsNothing, angles, SingleGate.angles]
  | pair gate control target =>
    cases gate with
    | controlledPhaseShift theta | xy theta | variableMSXX theta =>
      simp [tag, PairGate.tag, ofBody?, fields, pairFields, interaction?_object, isRestorable,
        mapsNothing, angles, PairGate.angles]
    | _ =>
      simp [tag, PairGate.tag, ofBody?, fields, pairFields, pair?_object, isRestorable,
        mapsNothing, angles, PairGate.angles]
  | define kind name length isOutput =>
    cases kind <;>
      simp [tag, RegisterKind.tag, ofBody?, fields, define?_object, isRestorable, mapsNothing,
        angles]
  | repeatMeasurement readout shots mapping =>
    cases mapping with
    | none =>
      have hfields : fields? ["readout", "number_measurements", "qubit_mapping"]
          (.object (fields (.repeatMeasurement readout shots none)))
          = some [.given (.string readout), .given (.natural shots), .unnamed] := rfl
      simp [tag, ofBody?, hfields, Field.withDefault?, isRestorable, mapsNothing, angles]
    | some m =>
      have hfields : fields? ["readout", "number_measurements", "qubit_mapping"]
          (.object (fields (.repeatMeasurement readout shots (some m))))
          = some [.given (.string readout), .given (.natural shots), .given (mappingToJson m)] :=
        fields?_object (by simp [fields])
      have hmapping : optional? mapping? (mappingToJson m)
          = if m.isEmpty then some (some m) else none :=
        restores_mapping.option (by intro _ h; cases h) (some m)
      simp [tag, ofBody?, hfields, hmapping, isRestorable, mapsNothing, angles]
  | inputBit name index value =>
    have hfields : fields? ["name", "index", "value"]
        (.object (fields (.inputBit name index value)))
        = some [.given (.string name), .given (.natural index), .given (.bool value)] :=
      fields?_object (by simp [fields])
    simp [tag, ofBody?, hfields, isRestorable, mapsNothing, angles]
  | measure qubit readout index =>
    have hfields : fields? ["qubit", "readout", "readout_index"]
        (.object (fields (.measure qubit readout index)))
        = some [.given (.natural qubit), .given (.string readout), .given (.natural index)] :=
      fields?_object (by simp [fields])
    simp [tag, ofBody?, hfields, isRestorable, mapsNothing, angles]
  | setShots shots readout =>
    have hfields : fields? ["number_measurements", "readout"]
        (.object (fields (.setShots shots readout)))
        = some [.given (.natural shots), .given (.string readout)] :=
      fields?_object (by simp [fields])
    simp [tag, ofBody?, hfields, isRestorable, mapsNothing, angles]
  | globalPhase phase =>
    have hfields : fields? ["phase"] (.object (fields (.globalPhase phase)))
        = some [.given phase.toJson] := fields?_object (by simp [fields])
    simp [tag, ofBody?, hfields, angle?_toJson, isRestorable, mapsNothing, angles]

/-- **Operations** are read back if their constants are finite and no qubits are mapped. -/
theorem restores : Restores ofJson? toJson isRestorable := by
  intro op
  rw [ofJson?, readable_toJson, if_pos rfl, body?_toJson]
  exact ofBody?_fields op

/-! #### Texts -/

/-- The numbers of an operation that a machine word has to hold. For a static bit this is the
length that it asks for. -/
def numbers : Operation R → List Nat
  | .single _ qubit => [qubit]
  | .pair _ control target => [control, target]
  | .define _ _ length _ => [length]
  | .inputBit _ index _ => [index + 1]
  | .measure qubit _ index => [qubit, index]
  | .setShots shots _ => [shots]
  | .repeatMeasurement _ shots mapping =>
    shots :: (mapping.elim [] fun m => m.entries.flatMap fun e => [e.1, e.2])
  | .globalPhase _ => []

/-- What the text of an operation needs to read back. -/
structure HasText (depth : Nat) (op : Operation Float) : Prop where
  words : ∀ n ∈ op.numbers, n < 2 ^ 64
  nesting : ∀ a ∈ op.angles, a.nesting ≤ depth
  constants : ∀ a ∈ op.angles, ∀ v ∈ a.constants, v.isFinite = true → ReadsBack v

theorem map_snd_singleFields (gate : SingleGate Float) :
    (singleFields gate).map (·.2) = gate.angles.map Angle.toJson := by
  cases gate <;> rfl

theorem map_snd_pairFields (gate : PairGate Float) :
    (pairFields gate).map (·.2) = gate.angles.map Angle.toJson := by
  cases gate <;> rfl

/-- Fields that are the angles of a gate have texts if the angles have. -/
private theorem printable_of_map_snd {depth : Nat} {members : List (String × Json)}
    {angles : List (Angle Float)} (hmembers : members.map (·.2) = angles.map Angle.toJson)
    (hangles : ∀ a ∈ angles, Printable depth a.toJson) :
    ∀ m ∈ members, Printable depth m.2 := by
  intro m hm
  have hvalue : m.2 ∈ angles.map Angle.toJson := hmembers ▸ List.mem_map_of_mem hm
  obtain ⟨a, ha, heq⟩ := List.mem_map.mp hvalue
  exact heq ▸ hangles a ha

theorem printable_mappingToJson {depth : Nat} {m : SortedMap Nat Nat}
    (h : ∀ e ∈ m.entries, e.2 < 2 ^ 64) : Printable (depth + 1) (mappingToJson m) := by
  refine .object fun member hmember => ?_
  obtain ⟨e, he, rfl⟩ := List.mem_map.mp hmember
  exact .natural (h e he)

/-- **The text of an operation** reads back. -/
theorem printable {depth : Nat} {op : Operation Float} (h : op.HasText (depth + 1)) :
    Printable (depth + 2) op.toJson := by
  have hangles : ∀ a ∈ op.angles, Printable (depth + 1) a.toJson := fun a ha =>
    Angle.printable (h.nesting a ha) (h.constants a ha)
  have hnumbers : ∀ n ∈ op.numbers, Printable (depth + 1) (.natural n) := fun n hn =>
    .natural (h.words n hn)
  have hfields : ∀ m ∈ op.fields, Printable (depth + 1) m.2 := by
    cases op with
    | single gate qubit =>
      refine List.forall_mem_cons.mpr ⟨hnumbers qubit (by simp [numbers]), ?_⟩
      exact printable_of_map_snd (map_snd_singleFields gate) hangles
    | pair gate control target =>
      refine List.forall_mem_cons.mpr ⟨hnumbers control (by simp [numbers]), ?_⟩
      refine List.forall_mem_cons.mpr ⟨hnumbers target (by simp [numbers]), ?_⟩
      exact printable_of_map_snd (map_snd_pairFields gate) hangles
    | define kind name length isOutput =>
      simp [fields, hnumbers length (by simp [numbers]), Printable.string, Printable.bool]
    | inputBit name index value =>
      -- the length that the bit asks for fits, and so does the bit's position
      have hlength := h.words (index + 1) (by simp [numbers])
      have hindex : Printable (depth + 1) (.natural index) := .natural (Nat.lt_of_succ_lt hlength)
      simp [fields, hindex, Printable.string, Printable.bool]
    | measure qubit readout index =>
      simp [fields, hnumbers qubit (by simp [numbers]), hnumbers index (by simp [numbers]),
        Printable.string]
    | setShots shots readout =>
      simp [fields, hnumbers shots (by simp [numbers]), Printable.string]
    | repeatMeasurement readout shots mapping =>
      have hshots := hnumbers shots (by simp [numbers])
      cases mapping with
      | none => simp [fields, hshots, Printable.string]
      | some m =>
        have hmapping : Printable (depth + 1) (mappingToJson m) :=
          printable_mappingToJson fun e he => h.words e.2 (by
            simp only [numbers, Option.elim_some, List.mem_cons, List.mem_flatMap]
            exact .inr ⟨e, he, by simp⟩)
        simp [fields, hshots, hmapping, Printable.string]
    | globalPhase phase => simp [fields, hangles phase (by simp [angles])]
  exact .object (List.forall_mem_cons.mpr ⟨.string, hfields⟩)

end Operation

/-! ### Circuits -/

namespace Circuit

/-- Whether a circuit is read back from its layout. -/
def isRestorable (c : Circuit Float) : Bool := c.operations.all Operation.isRestorable

/-- Whether every number in a circuit fits into a machine word. -/
def FitsWords (c : Circuit R) : Prop := ∀ op ∈ c.operations, ∀ n ∈ op.numbers, n < 2 ^ 64

instance (c : Circuit R) : Decidable c.FitsWords :=
  inferInstanceAs (Decidable (∀ op ∈ c.operations, ∀ n ∈ op.numbers, n < 2 ^ 64))

/-- **Circuits** are read back if their operations are. -/
theorem restores : Restores ofJson? toJson isRestorable := by
  intro c
  have hoperations := Operation.restores.list c.operations
  rw [ofJson?, toJson, hoperations]
  change _ = if c.operations.all Operation.isRestorable = true then _ else _
  split
  · rfl
  · rfl

/-- **The text of a circuit** reads back. -/
theorem printable {depth : Nat} {c : Circuit Float}
    (h : ∀ op ∈ c.operations, op.HasText (depth + 1)) : Printable (depth + 3) c.toJson :=
  .ofList fun op hop => Operation.printable (h op hop)

end Circuit

end CircuitDispatch
