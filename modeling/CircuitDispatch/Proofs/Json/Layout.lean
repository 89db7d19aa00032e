import CircuitDispatch.Json.Layout
import CircuitDispatch.Proofs.Json.RoundTrip
import CircuitDispatch.Proofs.SortedMap

/-!
# Layouts read back

`Restores` says of a layout what its reader makes of a written value: the value itself, if the
value passes a test, and nothing otherwise. A value is never read as another one. Lists, maps and
optional values restore if their parts do, and the fields of a written record are found by their
names (`fields?_object`).

Beside that, the layouts of lists, maps and numbers have texts that read back if their parts
have (`Printable`).
-/

namespace CircuitDispatch.Json

variable {α : Type}

/-- What is written is read back as it was if it passes the test `keep`, and is refused if not. -/
def Restores (read : Json → Option α) (write : α → Json) (keep : α → Bool) : Prop :=
  ∀ a, read (write a) = if keep a then some a else none

/-! ### Plain values -/

theorem restores_bool : Restores bool? .bool fun _ => true := fun _ => rfl

theorem restores_natural : Restores nat? natural fun _ => true := by
  intro n
  simp [natural, nat?]

theorem restores_float : Restores float? ofFloat Float.isFinite := by
  intro x
  unfold ofFloat
  split
  · rfl
  · rfl

namespace Restores

variable {read : Json → Option α} {write : α → Json} {keep : α → Bool}

/-! ### Lists, optional values and maps -/

theorem list (h : Restores read write keep) :
    Restores (list? read) (ofList write) fun l => l.all keep := by
  intro l
  change (l.map write).mapM read = _
  induction l with
  | nil => rfl
  | cons a l ih =>
    rw [List.map_cons, List.mapM_cons, ih, h a]
    by_cases ha : keep a = true
    · by_cases hl : l.all keep = true
      · simp [ha, hl]
      · simp [ha, hl]
    · simp [ha]

theorem option (h : Restores read write keep) (hnull : ∀ a, write a ≠ .null) :
    Restores (optional? read) (ofOption write) fun o => o.all keep := by
  intro o
  cases o with
  | none => rfl
  | some a =>
    have hread : optional? read (write a) = (read (write a)).map some :=
      optional?.eq_2 read _ fun hwrite => hnull a hwrite
    rw [ofOption, hread, h a]
    change _ = if keep a = true then _ else _
    split
    · rfl
    · rfl

theorem map (h : Restores read write keep) :
    Restores (map? read) (ofMap write) fun m => m.entries.all fun e => keep e.2 := by
  intro m
  have hentries : (m.entries.map fun e => (e.1, write e.2)).mapM
      (fun e => (read e.2).map fun v => (e.1, v))
      = if (m.entries.all fun e => keep e.2) = true then some m.entries else none := by
    induction m.entries with
    | nil => rfl
    | cons e l ih =>
      rw [List.map_cons, List.mapM_cons, ih, h e.2]
      by_cases he : keep e.2 = true
      · by_cases hl : (l.all fun e => keep e.2) = true
        · simp [he, hl]
        · simp [he, hl]
      · simp [he]
  rw [ofMap, map?, hentries]
  split
  · rw [Option.map_some, SortedMap.ofList_entries]
  · rfl

end Restores

/-! ### Records -/

@[simp] theorem required?_given (read : Json → Option α) (j : Json) :
    (Field.given j).required? read = read j := rfl

@[simp] theorem withDefault?_given (read : Json → Option α) (default : α) (j : Json) :
    (Field.given j).withDefault? read default = read j := rfl

@[simp] theorem nat?_natural (n : Nat) : nat? (natural n) = some n := restores_natural n

@[simp] theorem text?_string (s : String) : text? (.string s) = some s := rfl

@[simp] theorem bool?_bool (b : Bool) : bool? (.bool b) = some b := rfl

/-- A part that is there under a condition, in a record that is there if its parts are. -/
@[simp] theorem bind_ite_none {β : Type} {p : Prop} [Decidable p] (a : α) (f : α → Option β) :
    (if p then some a else none).bind f = if p then f a else none := by
  split
  · rfl
  · rfl

/-- A member is the only one with its name, if no name is repeated. -/
theorem filter_name_eq {members : List (String × Json)} (hnames : (members.map (·.1)).Nodup)
    {m : String × Json} (hm : m ∈ members) : members.filter (fun n => n.1 == m.1) = [m] := by
  induction members with
  | nil => cases hm
  | cons n rest ih =>
    rw [List.map_cons, List.nodup_cons] at hnames
    obtain ⟨hnew, hrest⟩ := hnames
    rcases List.mem_cons.mp hm with rfl | hm
    · rw [List.filter_cons_of_pos (by simp), List.filter_eq_nil_iff.mpr]
      intro n hn hname
      exact hnew (eq_of_beq hname ▸ List.mem_map_of_mem hn)
    · have hne : ¬ (n.1 == m.1) = true := fun hname =>
        hnew (eq_of_beq hname ▸ List.mem_map_of_mem hm)
      rw [List.filter_cons, if_neg hne, ih hrest hm]

/-- **The fields of a record** are found under their names. -/
theorem fields?_object {members : List (String × Json)} (hnames : (members.map (·.1)).Nodup) :
    fields? (members.map (·.1)) (.object members) = some (members.map fun m => .given m.2) := by
  -- the names are looked up one by one, in all members
  have hlookup : ∀ wanted : List (String × Json), wanted ⊆ members →
      fields? (wanted.map (·.1)) (.object members)
        = some (wanted.map fun m => Field.given m.2) := by
    intro wanted hwanted
    induction wanted with
    | nil => rfl
    | cons m wanted ih =>
      obtain ⟨hm, hwanted⟩ := List.cons_subset.mp hwanted
      have hrest := ih hwanted
      rw [fields?] at hrest ⊢
      rw [List.map_cons, List.mapM_cons, filter_name_eq hnames hm, hrest]
      rfl
  exact hlookup members (List.Subset.refl members)

/-! ### Texts -/

namespace Printable

theorem natural {depth n : Nat} (h : n < 2 ^ 64) : Printable depth (.natural n) :=
  .integer (by omega) (by omega)

theorem ofFloat {depth : Nat} {x : Float} (h : x.isFinite = true → ReadsBack x) :
    Printable depth (.ofFloat x) := by
  unfold Json.ofFloat
  split
  · next hfinite => exact .number hfinite (h hfinite)
  · exact .null

theorem tagged {depth : Nat} {name : String} {payload : Json} (h : Printable depth payload) :
    Printable (depth + 1) (.tagged name payload) :=
  .object fun m hm => by
    rw [List.mem_singleton.mp hm]
    exact h

theorem ofList {depth : Nat} {write : α → Json} {l : List α}
    (h : ∀ a ∈ l, Printable depth (write a)) : Printable (depth + 1) (ofList write l) := by
  refine .array fun item hitem => ?_
  obtain ⟨a, ha, rfl⟩ := List.mem_map.mp hitem
  exact h a ha

theorem ofMap {depth : Nat} {write : α → Json} {m : SortedMap String α}
    (h : ∀ e ∈ m.entries, Printable depth (write e.2)) :
    Printable (depth + 1) (ofMap write m) := by
  refine .object fun member hmember => ?_
  obtain ⟨e, he, rfl⟩ := List.mem_map.mp hmember
  exact h e he

theorem ofOption {depth : Nat} {write : α → Json} {o : Option α}
    (h : ∀ a ∈ o, Printable depth (write a)) : Printable depth (ofOption write o) := by
  cases o with
  | none => exact .null
  | some a => exact h a rfl

/-- What may be nested may also stand further out. -/
theorem mono {depth deeper : Nat} {j : Json} (h : Printable depth j) (hle : depth ≤ deeper) :
    Printable deeper j := by
  induction h generalizing deeper with
  | null => exact .null
  | bool => exact .bool
  | integer hlow hhigh => exact .integer hlow hhigh
  | number hfinite hback => exact .number hfinite hback
  | string => exact .string
  | array _ ih =>
    obtain ⟨n, rfl⟩ := Nat.exists_eq_add_one_of_ne_zero (Nat.ne_zero_of_lt hle)
    exact .array fun item hitem => ih item hitem (Nat.le_of_succ_le_succ hle)
  | object _ ih =>
    obtain ⟨n, rfl⟩ := Nat.exists_eq_add_one_of_ne_zero (Nat.ne_zero_of_lt hle)
    exact .object fun m hm => ih m hm (Nat.le_of_succ_le_succ hle)

end Printable

end CircuitDispatch.Json
