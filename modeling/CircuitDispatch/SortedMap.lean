/-!
# Sorted lists and finite maps in key order

`SortedList.insertBy` puts an element at its place in a list that increases
strictly by a key. `SortedList.ofList` sorts a list and drops repetitions: the
elements are their own keys. `SortedMap` is a finite map kept as its entries in
strictly increasing key order, so two maps with the same entries are equal, and
the order in which entries were written does not show.

The main statements are `SortedList.pairwise_insertBy`,
`SortedList.pairwise_ofList`, `SortedList.mem_ofList`,
`SortedMap.get?_insert_self` and `SortedMap.get?_insert_of_ne`.
-/

namespace CircuitDispatch

namespace SortedList

/-! ### Insertion -/

section Insertion

variable {α Key : Type} [Ord Key] {key : α → Key} {a b : α} {l : List α}

/-- Puts an element at its place by its key, in the stead of one with the same key. -/
def insertBy (key : α → Key) (a : α) : List α → List α
  | [] => [a]
  | b :: rest =>
    match compare (key a) (key b) with
    | .lt => a :: b :: rest
    | .eq => a :: rest
    | .gt => b :: insertBy key a rest

theorem mem_insertBy_self : a ∈ insertBy key a l := by
  induction l with
  | nil => simp [insertBy]
  | cons c rest ih =>
    simp only [insertBy]
    split
    · exact List.mem_cons_self
    · exact List.mem_cons_self
    · exact List.mem_cons_of_mem _ ih

theorem mem_of_mem_insertBy (h : b ∈ insertBy key a l) : b = a ∨ b ∈ l := by
  induction l with
  | nil => simpa [insertBy] using h
  | cons c rest ih =>
    simp only [insertBy] at h
    split at h
    · exact List.mem_cons.1 h
    · exact (List.mem_cons.1 h).imp_right (List.mem_cons_of_mem _)
    · rcases List.mem_cons.1 h with rfl | h
      · exact Or.inr List.mem_cons_self
      · exact (ih h).imp_right (List.mem_cons_of_mem _)

/-- Only an element with the same key gives way. -/
theorem mem_insertBy_of_ne [Std.LawfulEqOrd Key] (h : b ∈ l) (hne : key b ≠ key a) :
    b ∈ insertBy key a l := by
  induction l with
  | nil => cases h
  | cons c rest ih =>
    simp only [insertBy]
    split
    · exact List.mem_cons_of_mem _ h
    · next heq =>
      rcases List.mem_cons.1 h with rfl | h
      · exact absurd (Std.LawfulEqOrd.eq_of_compare heq).symm hne
      · exact List.mem_cons_of_mem _ h
    · rcases List.mem_cons.1 h with rfl | h
      · exact List.mem_cons_self
      · exact List.mem_cons_of_mem _ (ih h)

/-- **Inserting keeps the order.** -/
theorem pairwise_insertBy [Std.TransOrd Key] [Std.LawfulEqOrd Key]
    (h : l.Pairwise (fun x y => compare (key x) (key y) = .lt)) :
    (insertBy key a l).Pairwise (fun x y => compare (key x) (key y) = .lt) := by
  induction l with
  | nil => simp [insertBy]
  | cons c rest ih =>
    rw [List.pairwise_cons] at h
    simp only [insertBy]
    split
    · next hlt =>
      refine List.pairwise_cons.2 ⟨fun x hx => ?_, List.pairwise_cons.2 h⟩
      rcases List.mem_cons.1 hx with rfl | hx
      · exact hlt
      · exact Std.TransCmp.lt_trans hlt (h.1 x hx)
    · next heq =>
      rw [← Std.LawfulEqOrd.eq_of_compare heq] at h
      exact List.pairwise_cons.2 h
    · next hgt =>
      refine List.pairwise_cons.2 ⟨fun x hx => ?_, ih h.2⟩
      rcases mem_of_mem_insertBy hx with rfl | hx
      · exact Std.OrientedCmp.lt_of_gt hgt
      · exact h.1 x hx

end Insertion

/-! ### Sorting -/

variable {α : Type} [Ord α]

/-- The elements of a list in strictly increasing order. -/
def ofList (l : List α) : List α :=
  l.foldl (fun sorted a => insertBy id a sorted) []

theorem mem_insertBy_id [Std.LawfulEqOrd α] {a b : α} {l : List α} :
    b ∈ insertBy id a l ↔ b = a ∨ b ∈ l := by
  refine ⟨mem_of_mem_insertBy, ?_⟩
  rintro (rfl | h)
  · exact mem_insertBy_self
  · by_cases hba : b = a
    · exact hba ▸ mem_insertBy_self
    · exact mem_insertBy_of_ne h hba

private theorem mem_foldl_insertBy [Std.LawfulEqOrd α] {b : α} {l : List α} :
    ∀ {acc : List α}, b ∈ l.foldl (fun s a => insertBy id a s) acc ↔ b ∈ l ∨ b ∈ acc := by
  induction l with
  | nil => simp
  | cons c rest ih =>
    intro acc
    rw [List.foldl_cons, ih, mem_insertBy_id, List.mem_cons, or_left_comm, or_assoc]

/-- Sorting keeps exactly the elements of the list. -/
@[simp] theorem mem_ofList [Std.LawfulEqOrd α] {b : α} {l : List α} :
    b ∈ ofList l ↔ b ∈ l := by
  simp [ofList, mem_foldl_insertBy]

/-- A sorted list increases strictly. -/
theorem pairwise_ofList [Std.TransOrd α] [Std.LawfulEqOrd α] (l : List α) :
    (ofList l).Pairwise (fun x y => compare x y = .lt) := by
  suffices h : ∀ acc : List α, acc.Pairwise (fun x y => compare x y = .lt) →
      (l.foldl (fun s a => insertBy id a s) acc).Pairwise (fun x y => compare x y = .lt) from
    h [] List.Pairwise.nil
  induction l with
  | nil => exact fun _ h => h
  | cons c rest ih => exact fun acc h => ih _ (pairwise_insertBy h)

end SortedList

/-- A finite map, as its entries in strictly increasing key order. -/
structure SortedMap (Key Value : Type) [Ord Key] where
  /-- The entries, least key first. -/
  entries : List (Key × Value)
  /-- Keys increase strictly. -/
  sorted : entries.Pairwise (fun a b => compare a.1 b.1 = .lt)
  deriving DecidableEq

namespace SortedMap

variable {Key Value Other : Type} [Ord Key]

/-- Two maps with the same entries are the same map. -/
theorem ext {m n : SortedMap Key Value} (h : m.entries = n.entries) : m = n := by
  cases m; cases n; cases h; rfl

instance [BEq Key] [BEq Value] : BEq (SortedMap Key Value) where
  beq m n := m.entries == n.entries

/-- The map without entries. -/
def empty : SortedMap Key Value := ⟨[], List.Pairwise.nil⟩

instance : Inhabited (SortedMap Key Value) := ⟨empty⟩

instance : EmptyCollection (SortedMap Key Value) := ⟨empty⟩

@[simp] theorem entries_empty : (∅ : SortedMap Key Value).entries = [] := rfl

/-- Whether the map has no entry. -/
def isEmpty (m : SortedMap Key Value) : Bool := m.entries.isEmpty

/-- The keys, least first. -/
def keys (m : SortedMap Key Value) : List Key := m.entries.map (·.1)

/-- The value stored under a key. -/
def get? [BEq Key] (m : SortedMap Key Value) (k : Key) : Option Value := m.entries.lookup k

/-- Whether a key has a value. -/
def contains [BEq Key] (m : SortedMap Key Value) (k : Key) : Bool := (m.get? k).isSome

/-! ### Writing an entry -/

variable [Std.TransOrd Key] [Std.LawfulEqOrd Key]

/-- Stores a value under a key, in the stead of an earlier one. -/
def insert (m : SortedMap Key Value) (k : Key) (v : Value) : SortedMap Key Value where
  entries := SortedList.insertBy (·.1) (k, v) m.entries
  sorted := SortedList.pairwise_insertBy m.sorted

/-- The map of a list of entries; of two with one key the later counts. -/
def ofList (l : List (Key × Value)) : SortedMap Key Value :=
  l.foldl (fun m e => m.insert e.1 e.2) ∅

/-- Both maps' entries; where both have a key, the second's value. -/
def union (m n : SortedMap Key Value) : SortedMap Key Value :=
  n.entries.foldl (fun acc e => acc.insert e.1 e.2) m

omit [Std.TransOrd Key] [Std.LawfulEqOrd Key] in
/-- Changes every value and no key. -/
def mapValues (m : SortedMap Key Value) (f : Value → Other) : SortedMap Key Other where
  entries := m.entries.map (fun e => (e.1, f e.2))
  sorted := List.pairwise_map.2 m.sorted

omit [Std.TransOrd Key] [Std.LawfulEqOrd Key] in
/-- The entries that pass a test. -/
def filter (m : SortedMap Key Value) (p : Key → Value → Bool) : SortedMap Key Value where
  entries := m.entries.filter (fun e => p e.1 e.2)
  sorted := m.sorted.filter _

section Lookup

variable [BEq Key] [LawfulBEq Key]

private theorem lookup_insertBy_self {k : Key} {v : Value} {l : List (Key × Value)} :
    (SortedList.insertBy (·.1) (k, v) l).lookup k = some v := by
  induction l with
  | nil => simp [SortedList.insertBy]
  | cons c rest ih =>
    simp only [SortedList.insertBy]
    split
    · simp
    · simp
    · next hgt =>
      have hne : (k == c.1) = false := by
        rw [beq_eq_false_iff_ne]
        intro h
        rw [h, Std.ReflOrd.compare_self] at hgt
        cases hgt
      rw [List.lookup_cons, hne]
      exact ih

omit [Std.TransOrd Key] in
private theorem lookup_insertBy_of_ne {k k' : Key} {v : Value} {l : List (Key × Value)}
    (h : k' ≠ k) : (SortedList.insertBy (·.1) (k, v) l).lookup k' = l.lookup k' := by
  have hne : (k' == k) = false := by simpa using h
  induction l with
  | nil => simp [SortedList.insertBy, List.lookup_cons, hne]
  | cons c rest ih =>
    obtain ⟨k'', v''⟩ := c
    simp only [SortedList.insertBy]
    split
    · rw [List.lookup_cons, hne]
    · next heq =>
      rw [← Std.LawfulEqOrd.eq_of_compare heq]
      simp [List.lookup_cons, hne]
    · simp [List.lookup_cons, ih]

/-- The value written is there. -/
@[simp] theorem get?_insert_self (m : SortedMap Key Value) (k : Key) (v : Value) :
    (m.insert k v).get? k = some v :=
  lookup_insertBy_self

/-- Writing under one key leaves the other keys alone. -/
theorem get?_insert_of_ne (m : SortedMap Key Value) {k k' : Key} (v : Value) (h : k' ≠ k) :
    (m.insert k v).get? k' = m.get? k' :=
  lookup_insertBy_of_ne h

end Lookup

end SortedMap

end CircuitDispatch
