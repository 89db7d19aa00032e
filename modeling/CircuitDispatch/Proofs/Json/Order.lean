import CircuitDispatch.Json.Layout
import Mathlib.Data.List.Perm.Basic

/-!
# The order of members

Objects are the same value in whatever order their members stand. `Json.sorted` puts them in key
order, in all depths, and a reader that makes the same of a value and of the sorted one does not
depend on the order (`OrderFree`). Readers of lists and of optional values are order-free if the
readers of the parts are, and the fields of a record are found in any order
(`sameFields_object`).
-/

namespace CircuitDispatch.Json

variable {α : Type} {read : Json → Option α}

/-- Whether a reader makes the same of a value and of the value with its members in key order. -/
def OrderFree (read : Json → Option α) : Prop := ∀ j, read j.sorted = read j

/-! ### Sorting -/

/-- A member with its value sorted. -/
def sortedMember (m : String × Json) : String × Json := (m.1, m.2.sorted)

theorem sortedItems_eq (items : List Json) : sortedItems items = items.map sorted := by
  induction items with
  | nil => rfl
  | cons item rest ih => rw [sortedItems, ih, List.map_cons]

theorem insertMember_perm (key : String) (value : Json) (members : List (String × Json)) :
    (insertMember key value members).Perm ((key, value) :: members) := by
  induction members with
  | nil => exact .refl _
  | cons m rest ih =>
    rw [insertMember]
    split
    · exact .refl _
    · exact (ih.cons m).trans (.swap (key, value) m rest)

theorem sortedMembers_perm (members : List (String × Json)) :
    (sortedMembers members).Perm (members.map sortedMember) := by
  induction members with
  | nil => exact .refl _
  | cons m rest ih =>
    rw [sortedMembers, List.map_cons]
    exact (insertMember_perm m.1 m.2.sorted _).trans (ih.cons _)

theorem length_sortedMembers (members : List (String × Json)) :
    (sortedMembers members).length = members.length := by
  rw [(sortedMembers_perm members).length_eq, List.length_map]

theorem exists_sortedMembers_eq_cons (m : String × Json) (rest : List (String × Json)) :
    ∃ m' rest', sortedMembers (m :: rest) = m' :: rest' :=
  List.exists_cons_of_length_eq_add_one (length_sortedMembers (m :: rest))

theorem readableMembers_eq (members : List (String × Json)) :
    readableMembers members = members.all fun m => m.2.readable := by
  induction members with
  | nil => rfl
  | cons m rest ih => rw [readableMembers, ih, List.all_cons]

mutual

theorem readable_sorted (j : Json) : j.sorted.readable = j.readable :=
  match j with
  | .array items => readable_sortedItems items
  | .object members => readable_sortedMembers members
  | .null | .bool _ | .integer _ | .number _ | .string _ | .unreadable => rfl

theorem readable_sortedItems (items : List Json) :
    readableItems (sortedItems items) = readableItems items :=
  match items with
  | [] => rfl
  | item :: rest => by
    rw [sortedItems, readableItems, readableItems, readable_sorted item, readable_sortedItems rest]

theorem readable_sortedMembers (members : List (String × Json)) :
    readableMembers (sortedMembers members) = readableMembers members :=
  match members with
  | [] => rfl
  | (key, value) :: rest => by
    -- wherever the member is inserted, all members count alike
    rw [sortedMembers, readableMembers_eq, (insertMember_perm ..).all_eq, List.all_cons,
      ← readableMembers_eq, readable_sorted value, readable_sortedMembers rest, readableMembers]

end

/-! ### Plain values and lists -/

theorem orderFree_bool? : OrderFree bool? := fun j => by cases j <;> rfl

theorem orderFree_nat? : OrderFree nat? := fun j => by cases j <;> rfl

theorem orderFree_float? : OrderFree float? := fun j => by cases j <;> rfl

theorem orderFree_text? : OrderFree text? := fun j => by cases j <;> rfl

namespace OrderFree

theorem optional? (h : OrderFree read) : OrderFree (optional? read) := by
  intro j
  have hread := h j
  cases j with
  | null => rfl
  | bool | integer | number | string | array | object | unreadable =>
    exact congrArg (Option.map some) hread

theorem list? (h : OrderFree read) : OrderFree (list? read) := by
  intro j
  cases j with
  | array items =>
    have hread : read ∘ sorted = read := funext h
    change (sortedItems items).mapM read = items.mapM read
    rw [sortedItems_eq, List.mapM_map, hread]
  | null | bool | integer | number | string | object | unreadable => rfl

end OrderFree

/-! ### Records -/

/-- A field with its value sorted. -/
def Field.sorted : Field → Field
  | .given j => .given j.sorted
  | .unnamed => .unnamed
  | .beyond => .beyond

theorem OrderFree.required? (h : OrderFree read) (f : Field) :
    f.sorted.required? read = f.required? read := by
  cases f with
  | given j => exact h j
  | unnamed | beyond => rfl

theorem OrderFree.withDefault? (h : OrderFree read) (default : α) (f : Field) :
    f.sorted.withDefault? read default = f.withDefault? read default := by
  cases f with
  | given j => exact h j
  | unnamed | beyond => rfl

/-- Whether two records have the same fields, one with their values sorted. -/
def SameFields (j j' : Json) : Prop :=
  ∀ names, j'.fields? names = (j.fields? names).map (List.map Field.sorted)

/-- A reader that looks at the fields alone, and at each through order-free readers. -/
theorem SameFields.bind {j j' : Json} (h : SameFields j j') {names : List String}
    {k : List Field → Option α} (hk : ∀ fields, k (fields.map Field.sorted) = k fields) :
    (j'.fields? names).bind k = (j.fields? names).bind k := by
  rw [h names]
  cases j.fields? names with
  | none => rfl
  | some fields => exact hk fields

theorem filter_sortedMember {members members' : List (String × Json)}
    (h : members'.Perm (members.map sortedMember)) (p : String → Bool) :
    (members'.filter fun m => p m.1).Perm ((members.filter fun m => p m.1).map sortedMember) := by
  have hfilter := h.filter fun m => p m.1
  rwa [List.filter_map] at hfilter

/-- What the members with one name say about a field. -/
def soleField : List (String × Json) → Option Field
  | [] => some .unnamed
  | [m] => some (.given m.2)
  | _ => none

theorem soleField_of_perm {l l' : List (String × Json)} (h : l'.Perm (l.map sortedMember)) :
    soleField l' = (soleField l).map Field.sorted := by
  rcases l with _ | ⟨m, _ | ⟨m', rest⟩⟩
  · rw [h.eq_nil]
    rfl
  · rw [List.perm_singleton.mp h]
    rfl
  · -- there are two members in the other order as well
    have hlength := h.length_eq
    rcases l' with _ | ⟨n, _ | ⟨n', rest'⟩⟩
    · cases hlength
    · cases hlength
    · rfl

theorem fields?_object_cons (name : String) (names : List String)
    (members : List (String × Json)) : fields? (name :: names) (.object members)
      = (soleField (members.filter fun m => m.1 == name)).bind fun f =>
        (fields? names (.object members)).map (f :: ·) := by
  change (name :: names).mapM (fun name => soleField (members.filter fun m => m.1 == name))
    = (soleField (members.filter fun m => m.1 == name)).bind fun f =>
      (names.mapM fun name => soleField (members.filter fun m => m.1 == name)).map (f :: ·)
  rw [List.mapM_cons]
  cases soleField (members.filter fun m => m.1 == name) with
  | none => rfl
  | some f =>
    cases names.mapM fun name => soleField (members.filter fun m => m.1 == name) <;> rfl

theorem sameFields_object {members members' : List (String × Json)}
    (h : members'.Perm (members.map sortedMember)) :
    SameFields (.object members) (.object members') := by
  intro names
  -- each name is looked up by itself, so the induction is on the names
  induction names with
  | nil => rfl
  | cons name names ih =>
    have hsole := soleField_of_perm (filter_sortedMember h (· == name))
    rw [fields?_object_cons, fields?_object_cons, ih, hsole]
    cases soleField (members.filter fun m => m.1 == name) with
    | none => rfl
    | some f => cases fields? names (.object members) <;> rfl

theorem sameFields_array (items : List Json) :
    SameFields (.array items) (.array (items.map sorted)) := by
  intro names
  simp only [fields?, List.length_map]
  split
  · simp [Field.sorted, Function.comp_def]
  · rfl

end CircuitDispatch.Json
