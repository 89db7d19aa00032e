import CircuitDispatch.Circuit.Basic
import CircuitDispatch.Proofs.Angle.Binding

/-!
# Binding the symbols of a circuit

Binding replaces the angles of a circuit and nothing else. What an operation is besides its angles
shows in what can be asked of it (`Operation.ReplacesAngles`), and together with the angles this
leaves no choice (`Operation.ReplacesAngles.unique`). So the bound circuit is known operation by
operation, the symbols free in it are those that are not bound, and binding in two steps is binding
once (`Circuit.bind_replacesAngles`).
-/

namespace CircuitDispatch

variable {R : Type}

/-! ### Operations -/

theorem SingleGate.mapAngles_mapAngles (f f' : Angle R → Angle R) (g : SingleGate R) :
    (g.mapAngles f).mapAngles f' = g.mapAngles (f' ∘ f) := by
  cases g <;> rfl

theorem PairGate.mapAngles_mapAngles (f f' : Angle R → Angle R) (g : PairGate R) :
    (g.mapAngles f).mapAngles f' = g.mapAngles (f' ∘ f) := by
  cases g <;> rfl

theorem SingleGate.eq_of_tag_of_angles {g g' : SingleGate R} (htag : g.tag = g'.tag)
    (hangles : g.angles = g'.angles) : g = g' := by
  cases g <;> cases g' <;> simp_all [tag, angles]

theorem PairGate.eq_of_tag_of_angles {g g' : PairGate R} (htag : g.tag = g'.tag)
    (hangles : g.angles = g'.angles) : g = g' := by
  cases g <;> cases g' <;> simp_all [tag, angles]

namespace Operation

/-- Whether an operation is another one with its angles replaced, one by one. -/
structure ReplacesAngles (f : Angle R → Angle R) (op op' : Operation R) : Prop where
  angles_eq : op'.angles = op.angles.map f
  tag_eq : op'.tag = op.tag
  qubits_eq : op'.qubits = op.qubits
  shots_eq : op'.shotDeclaration? = op.shotDeclaration?
  readout_eq : op'.readout? = op.readout?
  /-- Where there are no angles, nothing is replaced. -/
  eq_of_angles_eq_nil : op.angles = [] → op' = op

variable {f : Angle R → Angle R} {op op' op'' : Operation R}

/-- Operations with angles are known by their names, qubits and angles. -/
theorem eq_of_tag_of_qubits_of_angles (htag : op.tag = op'.tag) (hqubits : op.qubits = op'.qubits)
    (hangles : op.angles = op'.angles) (h : op.angles ≠ []) : op = op' := by
  -- the number of qubits tells gates on one, gates on two and phases apart
  cases op with
  | single gate qubit =>
    cases op' with
    | single gate' qubit' =>
      rw [SingleGate.eq_of_tag_of_angles htag hangles, (List.cons.inj hqubits).1]
    | pair => cases hqubits
    | globalPhase => cases hqubits
    | define | inputBit | measure | setShots | repeatMeasurement => exact absurd hangles h
  | pair gate control target =>
    cases op' with
    | pair gate' control' target' =>
      obtain ⟨rfl, hrest⟩ := List.cons.inj hqubits
      rw [PairGate.eq_of_tag_of_angles htag hangles, (List.cons.inj hrest).1]
    | single => cases hqubits
    | globalPhase => cases hqubits
    | define | inputBit | measure | setShots | repeatMeasurement => exact absurd hangles h
  | globalPhase phase =>
    cases op' with
    | globalPhase phase' => rw [(List.cons.inj hangles).1]
    | single | pair => cases hqubits
    | define | inputBit | measure | setShots | repeatMeasurement => cases hangles
  | define | inputBit | measure | setShots | repeatMeasurement => exact absurd rfl h

theorem mapAngles_mapAngles (f f' : Angle R → Angle R) (op : Operation R) :
    (op.mapAngles f).mapAngles f' = op.mapAngles (f' ∘ f) := by
  cases op with
  | single gate qubit => simp only [mapAngles, SingleGate.mapAngles_mapAngles]
  | pair gate control target => simp only [mapAngles, PairGate.mapAngles_mapAngles]
  | define | inputBit | measure | setShots | repeatMeasurement | globalPhase => rfl

/-- **Nothing but the angles is replaced.** -/
theorem ReplacesAngles.unique (h : op.ReplacesAngles f op') (h' : op.ReplacesAngles f op'') :
    op' = op'' := by
  by_cases hnil : op.angles = []
  · rw [h.eq_of_angles_eq_nil hnil, h'.eq_of_angles_eq_nil hnil]
  · refine eq_of_tag_of_qubits_of_angles (h.tag_eq.trans h'.tag_eq.symm)
      (h.qubits_eq.trans h'.qubits_eq.symm) (h.angles_eq.trans h'.angles_eq.symm) ?_
    rw [h.angles_eq]
    exact fun hmap => hnil (List.map_eq_nil_iff.mp hmap)

section Bind

variable (values : String → Option R)

theorem tag_bind (op : Operation R) : (op.bind values).tag = op.tag := by
  cases op with
  | single gate qubit => exact SingleGate.tag_mapAngles _ gate
  | pair gate control target => exact PairGate.tag_mapAngles _ gate
  | define | inputBit | measure | setShots | repeatMeasurement | globalPhase => rfl

theorem qubits_bind (op : Operation R) : (op.bind values).qubits = op.qubits := by
  cases op with
  | single | pair | define | inputBit | measure | setShots | repeatMeasurement | globalPhase => rfl

theorem angles_bind (op : Operation R) :
    (op.bind values).angles = op.angles.map (Angle.bind values) := by
  cases op with
  | single gate qubit => exact SingleGate.angles_mapAngles _ gate
  | pair gate control target => exact PairGate.angles_mapAngles _ gate
  | define | inputBit | measure | setShots | repeatMeasurement | globalPhase => rfl

theorem bind_of_angles_eq_nil {op : Operation R} (h : op.angles = []) : op.bind values = op := by
  cases op with
  | single gate qubit => cases gate <;> first | rfl | cases h
  | pair gate control target => cases gate <;> first | rfl | cases h
  | globalPhase phase => cases h
  | define | inputBit | measure | setShots | repeatMeasurement => rfl

/-- **Binding replaces the angles** of an operation. -/
theorem replacesAngles_iff {op op' : Operation R} :
    op.ReplacesAngles (Angle.bind values) op' ↔ op' = op.bind values := by
  have hbind : op.ReplacesAngles (Angle.bind values) (op.bind values) := by
    refine ⟨op.angles_bind values, op.tag_bind values, op.qubits_bind values, ?_, ?_,
      bind_of_angles_eq_nil values⟩
    · cases op <;> rfl
    · cases op <;> rfl
  constructor
  · exact fun h => h.unique hbind
  · rintro rfl
    exact hbind

theorem bind_bind_eq (first second : String → Option R) (op : Operation R) :
    (op.bind first).bind second = op.bind fun name => (first name).or (second name) := by
  have htwo : Angle.bind second ∘ Angle.bind first
      = Angle.bind fun name => (first name).or (second name) :=
    funext fun a => a.bind_bind_eq first second
  unfold bind
  rw [mapAngles_mapAngles, htwo]

end Bind

end Operation

/-! ### Circuits -/

namespace Circuit

theorem qubits_bind (values : String → Option R) (c : Circuit R) :
    (c.bind values).qubits = c.qubits := by
  unfold qubits bind
  rw [List.flatMap_map]
  simp only [Operation.qubits_bind]

/-- Whether a symbol is free in an angle of a circuit. -/
def IsFree (c : Circuit R) (name : String) : Prop :=
  ∃ op ∈ c.operations, ∃ a ∈ op.angles, name ∈ a.symbols

/-- What a circuit becomes when symbols are bound in it. -/
structure BindsAngles (values : String → Option R) (c bound : Circuit R) : Prop where
  size_eq : bound.size = c.size
  /-- At each position stands the operation with its angles replaced. -/
  replaced : ∀ (i : Nat) op op', c.operations[i]? = some op →
    (bound.operations[i]? = some op' ↔ op.ReplacesAngles (Angle.bind values) op')
  /-- What is free and not bound is still free. -/
  free : ∀ name, bound.IsFree name ↔ c.IsFree name ∧ values name = none
  parametrized : bound.isParametrized = true ↔ ∃ name, c.IsFree name ∧ values name = none

variable {c : Circuit R} {values : String → Option R} {name : String}

theorem isFree_bind : (c.bind values).IsFree name ↔ c.IsFree name ∧ values name = none := by
  simp only [IsFree, bind, List.mem_map, exists_exists_and_eq_and, Operation.angles_bind,
    Angle.mem_symbols_bind, ← and_assoc, exists_and_right]

theorem isParametrized_eq_true_iff : c.isParametrized = true ↔ ∃ name, c.IsFree name := by
  simp only [isParametrized, List.any_eq_true, Angle.isSymbolic_eq_true_iff]
  constructor
  · rintro ⟨op, hop, a, ha, name, hname⟩
    exact ⟨name, op, hop, a, ha, hname⟩
  · rintro ⟨name, op, hop, a, ha, hname⟩
    exact ⟨op, hop, a, ha, name, hname⟩

/-- **Binding replaces angles, and composes.** Every operation stays what it is but for its angles,
in which the symbols that are not bound stay free. To bind twice is to bind once, where the first
number for a symbol counts. -/
theorem bind_replacesAngles (c : Circuit R) (first second : String → Option R) :
    c.BindsAngles second (c.bind second) ∧
      (c.bind first).bind second = c.bind fun name => (first name).or (second name) := by
  refine ⟨⟨List.length_map _, ?replaced, fun name => isFree_bind, ?parametrized⟩, ?twice⟩
  case replaced =>
    intro i op op' hop
    rw [Operation.replacesAngles_iff, bind, List.getElem?_map, hop]
    exact Option.some_inj.trans eq_comm
  case parametrized =>
    simp only [isParametrized_eq_true_iff, isFree_bind]
  case twice =>
    unfold bind
    rw [List.map_map]
    exact congrArg Circuit.mk (List.map_congr_left fun op _ => op.bind_bind_eq first second)

end Circuit

end CircuitDispatch
