import CircuitDispatch.Proofs.Circuit.Layout
import CircuitDispatch.Proofs.Json.Order

/-!
# What a layout is read as

A reader looks a member up by its name, and so makes the same of an object in whatever order its
members stand: for angles, operations and circuits (`orderFree_ofJson?`). With what is read back
of a written circuit (`Circuit.restores`), no order of members makes another circuit of it, and
only a constant that is not finite or a mapping of qubits is refused
(`Circuit.ofJson?_of_sorted_eq`).
-/

namespace CircuitDispatch

open Json

variable {R : Type}

/-! ### Angles -/

namespace Angle

theorem admits_sorted (empty : EmptyPayload) (j : Json) :
    empty.admits j.sorted = empty.admits j := by
  cases j with
  | object members =>
    cases members with
    | nil => rfl
    | cons m rest =>
      obtain ⟨m', rest', hsorted⟩ := exists_sortedMembers_eq_cons m rest
      rw [sorted, hsorted]
      cases empty <;> rfl
  | null | bool | integer | number | string | array | unreadable => cases empty <;> rfl

mutual

theorem orderFree_ofJson? (empty : EmptyPayload) : OrderFree (ofJson? empty)
  | .object [] => rfl
  | .object [(name, payload)] => by
    simp only [sorted, sortedMembers, insertMember, ofJson?, orderFree_ofJson? empty payload,
      orderFree_operands? empty payload, orderFree_float? payload, orderFree_text? payload,
      admits_sorted]
  | .object (m :: m' :: rest) => by
    -- the sorted object has as many members
    have hlength := length_sortedMembers (m :: m' :: rest)
    rw [sorted]
    match hsorted : sortedMembers (m :: m' :: rest) with
    | [] | [_] => simp [hsorted] at hlength
    | _ :: _ :: _ => rfl
  | .array items | .null | .bool _ | .integer _ | .number _ | .string _ | .unreadable => rfl

theorem orderFree_operands? (empty : EmptyPayload) : OrderFree (operands? empty)
  | .array [a, b] => by
    simp only [sorted, sortedItems, operands?, orderFree_ofJson? empty a,
      orderFree_ofJson? empty b]
  | .array [] | .array [_] | .array (_ :: _ :: _ :: _) => rfl
  | .object _ | .null | .bool _ | .integer _ | .number _ | .string _ | .unreadable => rfl

end

end Angle

/-! ### Operations -/

namespace Operation

theorem orderFree_mapping? : OrderFree mapping? := by
  intro j
  cases j with
  | object members =>
    cases members with
    | nil => rfl
    | cons m rest =>
      obtain ⟨m', rest', hsorted⟩ := exists_sortedMembers_eq_cons m rest
      rw [sorted, hsorted]
      rfl
  | null | bool | integer | number | string | array | unreadable => rfl

theorem angle?_sorted (f : Field) : angle? f.sorted = angle? f :=
  (Angle.orderFree_ofJson? .orEmptyObject).required? f

section Readers

variable {body body' : Json}

theorem single?_of_sameFields (h : SameFields body body') (gate : SingleGate Float) :
    single? gate body' = single? gate body :=
  h.bind fun
    | [qubit] => by simp [orderFree_nat?.required?]
    | [] | _ :: _ :: _ => rfl

theorem rotation?_of_sameFields (h : SameFields body body')
    (gate : Angle Float → SingleGate Float) : rotation? gate body' = rotation? gate body :=
  h.bind fun
    | [qubit, theta] => by simp [orderFree_nat?.required?, angle?_sorted]
    | [] | [_] | _ :: _ :: _ :: _ => rfl

theorem pair?_of_sameFields (h : SameFields body body') (gate : PairGate Float) :
    pair? gate body' = pair? gate body :=
  h.bind fun
    | [control, target] => by simp [orderFree_nat?.required?]
    | [] | [_] | _ :: _ :: _ :: _ => rfl

theorem interaction?_of_sameFields (h : SameFields body body')
    (gate : Angle Float → PairGate Float) : interaction? gate body' = interaction? gate body :=
  h.bind fun
    | [control, target, theta] => by simp [orderFree_nat?.required?, angle?_sorted]
    | [] | [_] | [_, _] | _ :: _ :: _ :: _ :: _ => rfl

theorem define?_of_sameFields (h : SameFields body body') (kind : RegisterKind) :
    define? kind body' = define? kind body :=
  h.bind fun
    | [name, length, isOutput] => by
      simp [orderFree_text?.required?, orderFree_nat?.required?, orderFree_bool?.required?]
    | [] | [_] | [_, _] | _ :: _ :: _ :: _ :: _ => rfl

/-- The fields alone decide which operation is read. -/
theorem ofBody?_of_sameFields (h : SameFields body body') (tag : String) :
    ofBody? tag body' = ofBody? tag body := by
  unfold ofBody?
  simp only [single?_of_sameFields h, rotation?_of_sameFields h, pair?_of_sameFields h,
    interaction?_of_sameFields h, define?_of_sameFields h]
  split
  -- the operations that share no reader are left
  all_goals try rfl
  case h_4 => -- a rotation with two angles
    exact h.bind fun
      | [qubit, theta, phi] => by simp [orderFree_nat?.required?, angle?_sorted]
      | [] | [_] | [_, _] | _ :: _ :: _ :: _ :: _ => rfl
  case h_23 => -- an input bit
    exact h.bind fun
      | [name, index, value] => by
        simp [orderFree_text?.required?, orderFree_nat?.required?, orderFree_bool?.required?]
      | [] | [_] | [_, _] | _ :: _ :: _ :: _ :: _ => rfl
  case h_24 => -- a measurement
    exact h.bind fun
      | [qubit, readout, index] => by
        simp [orderFree_nat?.required?, orderFree_text?.required?]
      | [] | [_] | [_, _] | _ :: _ :: _ :: _ :: _ => rfl
  case h_25 => -- shots
    exact h.bind fun
      | [shots, readout] => by simp [orderFree_nat?.required?, orderFree_text?.required?]
      | [] | [_] | _ :: _ :: _ :: _ => rfl
  case h_26 => -- shots with a mapping
    exact h.bind fun
      | [readout, shots, mapping] => by
        simp [orderFree_text?.required?, orderFree_nat?.required?,
          orderFree_mapping?.optional?.withDefault?]
      | [] | [_] | [_, _] | _ :: _ :: _ :: _ :: _ => rfl
  case h_27 => -- a global phase
    exact h.bind fun
      | [phase] => by simp [angle?_sorted]
      | [] | _ :: _ :: _ => rfl

end Readers

theorem body?_object (members : List (String × Json)) :
    body? (.object members) =
      match soleField (members.filter fun m => m.1 == "type") with
      | some (.given (.string tag)) => some (tag, .object (members.filter fun m => m.1 != "type"))
      | _ => none := by
  rw [body?]
  generalize members.filter (fun m => m.1 == "type") = types
  rcases types with _ | ⟨⟨name, value⟩, _ | ⟨m', rest⟩⟩
  · rfl
  · cases value <;> rfl
  · cases value <;> rfl

/-- Of a value and of the sorted value the same name is read, and the same fields. -/
theorem body?_sorted (j : Json) :
    (body? j = none ∧ body? j.sorted = none) ∨
      ∃ tag body body', body? j = some (tag, body) ∧ body? j.sorted = some (tag, body') ∧
        SameFields body body' := by
  cases j with
  | object members =>
    have hperm := sortedMembers_perm members
    have hothers := sameFields_object (filter_sortedMember hperm (· != "type"))
    rw [sorted, body?_object, body?_object,
      soleField_of_perm (filter_sortedMember hperm (· == "type"))]
    rcases soleField (members.filter fun m => m.1 == "type") with _ | ⟨value⟩ | _ | _
    · exact .inl ⟨rfl, rfl⟩
    · cases value with
      | string tag => exact .inr ⟨tag, _, _, rfl, rfl, hothers⟩
      | null | bool | integer | number | array | object | unreadable => exact .inl ⟨rfl, rfl⟩
    · exact .inl ⟨rfl, rfl⟩
    · exact .inl ⟨rfl, rfl⟩
  | array items =>
    match items with
    | .string tag :: rest =>
      refine .inr ⟨tag, .array rest, .array (sortedItems rest), rfl, rfl, ?_⟩
      rw [sortedItems_eq]
      exact sameFields_array rest
    | [] | .null :: _ | .bool _ :: _ | .integer _ :: _ | .number _ :: _ | .array _ :: _
    | .object _ :: _ | .unreadable :: _ => exact .inl ⟨rfl, rfl⟩
  | null | bool | integer | number | string | unreadable => exact .inl ⟨rfl, rfl⟩

theorem orderFree_ofJson? : OrderFree ofJson? := by
  intro j
  rw [ofJson?, ofJson?, readable_sorted]
  obtain ⟨hnone, hnone'⟩ | ⟨tag, body, body', hbody, hbody', hsame⟩ := body?_sorted j
  · rw [hnone, hnone']
  · rw [hbody, hbody']
    simp only [ofBody?_of_sameFields hsame]

/-! #### What is refused -/

/-- Whether an operation has a constant that is not finite. -/
def HasNonFinite (op : Operation Float) : Prop :=
  ∃ a ∈ op.angles, ∃ v ∈ a.constants, v.isFinite = false

/-- Whether an operation is a repeated measurement that maps qubits. -/
def MapsQubits (op : Operation R) : Prop :=
  ∃ readout shots m, op = .repeatMeasurement readout shots (some m) ∧ m.entries ≠ []

theorem mapsNothing_eq_false_iff {op : Operation R} : op.mapsNothing = false ↔ op.MapsQubits := by
  constructor
  · intro h
    match op, h with
    | .repeatMeasurement readout shots (some m), h =>
      exact ⟨readout, shots, m, rfl, List.isEmpty_eq_false_iff.mp h⟩
  · rintro ⟨readout, shots, m, rfl, hentries⟩
    exact List.isEmpty_eq_false_iff.mpr hentries

theorem isRestorable_eq_false_iff {op : Operation Float} :
    op.isRestorable = false ↔ op.HasNonFinite ∨ op.MapsQubits := by
  rw [isRestorable, Bool.and_eq_false_iff, mapsNothing_eq_false_iff]
  simp only [HasNonFinite, Angle.isFinite, List.all_eq_false, Bool.not_eq_true]

end Operation

/-! ### Circuits -/

namespace Circuit

theorem orderFree_ofJson? : OrderFree ofJson? := by
  intro j
  rw [ofJson?, ofJson?, Operation.orderFree_ofJson?.list? j]

theorem isRestorable_eq_false_iff {c : Circuit Float} : c.isRestorable = false ↔
    (∃ op ∈ c.operations, op.HasNonFinite) ∨ ∃ op ∈ c.operations, op.MapsQubits := by
  simp only [isRestorable, List.all_eq_false, Bool.not_eq_true,
    Operation.isRestorable_eq_false_iff, and_or_left, exists_or]

/-- **The layout of a circuit** is never read as another circuit, in whatever order the members of
its objects stand. It is refused exactly if some constant is not finite or some repeated
measurement maps qubits. -/
theorem ofJson?_of_sorted_eq {c : Circuit Float} {j : Json} (h : j.sorted = c.toJson.sorted) :
    (∀ d, ofJson? j = some d → d = c) ∧
      (ofJson? j = none ↔
        (∃ op ∈ c.operations, op.HasNonFinite) ∨ ∃ op ∈ c.operations, op.MapsQubits) := by
  have hread : ofJson? j = if c.isRestorable then some c else none := by
    rw [← orderFree_ofJson? j, h, orderFree_ofJson?, restores c]
  rw [hread, ← isRestorable_eq_false_iff]
  cases c.isRestorable with
  | true => exact ⟨fun d hd => (Option.some_inj.mp hd).symm, by simp⟩
  | false => exact ⟨nofun, by simp⟩

/-- The fields of a rotation in another order, before its name. -/
theorem ofJson?_reordered :
    let c : Circuit Float := ⟨[.single (.rotateX (.symbol "x")) 1]⟩
    let j : Json := .array [.object
      [("theta", .tagged "Symbol" (.string "x")), ("qubit", .natural 1),
        ("type", .string "RotateX")]]
    j.sorted = c.toJson.sorted ∧ (∀ d, ofJson? j = some d → d = c) ∧
      (ofJson? j = none ↔
        (∃ op ∈ c.operations, op.HasNonFinite) ∨ ∃ op ∈ c.operations, op.MapsQubits) :=
  have hsorted : _ := by rfl
  ⟨hsorted, ofJson?_of_sorted_eq hsorted⟩

end Circuit

end CircuitDispatch
