import Mathlib.Algebra.BigOperators.Group.List.Basic
import Mathlib.Data.List.Sort
import CircuitDispatch.SortedMap

/-!
# Reading sorted maps

What is found under a key after a filter (`get?_filter`), in a union (`get?_union`) and in a
union of many maps (`get?_foldl_union`), and sums over the entries of a map that pick out one key
(`sum_entries_pick`). A key is stored at most once, so an entry of the list is what a
lookup finds (`get?_eq_some_iff`), and a map is known by what is found in it (`ext_get?`). The
entries of a map make the map again (`ofList_entries`).
-/

namespace CircuitDispatch.SortedMap

variable {Key Value : Type} [Ord Key] [Std.TransOrd Key] [Std.LawfulEqOrd Key] [BEq Key]
  [LawfulBEq Key]

omit [Std.LawfulEqOrd Key] [BEq Key] [LawfulBEq Key] in
/-- The first key of a sorted list is not stored again. -/
private theorem head_notMem {k : Key} {v w : Value} {l : List (Key × Value)}
    (h : ((k, v) :: l).Pairwise (fun a b => compare a.1 b.1 = .lt)) : (k, w) ∉ l := by
  intro hmem
  have hlt : compare k k = .lt := (List.pairwise_cons.mp h).1 (k, w) hmem
  rw [Std.ReflOrd.compare_self] at hlt
  cases hlt

omit [Std.LawfulEqOrd Key] in
private theorem lookup_eq_some_iff {l : List (Key × Value)}
    (h : l.Pairwise (fun a b => compare a.1 b.1 = .lt)) {k : Key} {v : Value} :
    l.lookup k = some v ↔ (k, v) ∈ l := by
  induction l with
  | nil => simp
  | cons e rest ih =>
    obtain ⟨k', v'⟩ := e
    have hrest := ih (List.pairwise_cons.mp h).2
    rw [List.lookup_cons, List.mem_cons, Prod.mk.injEq]
    by_cases hk : k = k'
    · subst hk
      -- the key stands at the head, and nowhere else
      simp only [BEq.rfl, Option.some.injEq, true_and]
      refine ⟨fun hv => Or.inl hv.symm, fun hv => ?_⟩
      rcases hv with hv | hmem
      · exact hv.symm
      · exact absurd hmem (head_notMem h)
    · have hbeq : (k == k') = false := by simpa using hk
      simp only [hbeq, hk, false_and, false_or]
      exact hrest

omit [Std.LawfulEqOrd Key] in
private theorem lookup_rest_eq_none {k : Key} {v : Value} {l : List (Key × Value)}
    (h : ((k, v) :: l).Pairwise (fun a b => compare a.1 b.1 = .lt)) : l.lookup k = none := by
  refine Option.eq_none_iff_forall_ne_some.mpr fun w hw => ?_
  exact head_notMem h ((lookup_eq_some_iff (List.pairwise_cons.mp h).2).mp hw)

omit [Std.LawfulEqOrd Key] in
/-- **Lookups find the entries.** -/
theorem get?_eq_some_iff {m : SortedMap Key Value} {k : Key} {v : Value} :
    m.get? k = some v ↔ (k, v) ∈ m.entries :=
  lookup_eq_some_iff m.sorted

omit [Std.LawfulEqOrd Key] in
/-- **Maps in which the same is found are the same.** -/
theorem ext_get? {m n : SortedMap Key Value} (h : ∀ k, m.get? k = n.get? k) : m = n := by
  have hirrefl : Std.Irrefl fun a b : Key × Value => compare a.1 b.1 = .lt :=
    ⟨fun a hlt => nomatch (Std.ReflOrd.compare_self (a := a.1)).symm.trans hlt⟩
  have hantisymm : Std.Antisymm fun a b : Key × Value => compare a.1 b.1 = .lt :=
    ⟨fun a b hab hba => nomatch (Std.OrientedCmp.gt_of_lt hba).symm.trans hab⟩
  -- the entries are two sorted lists with the same elements
  refine ext (m.sorted.eq_of_mem_iff n.sorted fun e => ?_)
  obtain ⟨k, v⟩ := e
  rw [← get?_eq_some_iff, ← get?_eq_some_iff, h]

omit [Std.LawfulEqOrd Key] in
/-- A filter keeps what passes the test. -/
theorem get?_filter (m : SortedMap Key Value) (p : Key → Value → Bool) (k : Key) :
    (m.filter p).get? k = (m.get? k).filter (p k) := by
  refine Option.ext fun v => ?_
  rw [Option.filter_eq_some_iff, get?_eq_some_iff, get?_eq_some_iff]
  exact List.mem_filter

omit [Std.LawfulEqOrd Key] in
/-- A sum over the entries that counts one key only is the term of that key. -/
theorem sum_entries_pick {A : Type} [AddCommMonoid A] (m : SortedMap Key Value) (k : Key)
    (f : Value → A) :
    (m.entries.map fun e => if k == e.1 then f e.2 else 0).sum = (m.get? k).elim 0 f := by
  obtain ⟨l, hl⟩ := m
  change _ = (l.lookup k).elim 0 f
  induction l with
  | nil => rfl
  | cons e rest ih =>
    obtain ⟨k', v'⟩ := e
    have hrest := ih (List.pairwise_cons.mp hl).2
    rw [List.map_cons, List.sum_cons, hrest, List.lookup_cons]
    by_cases hk : k = k'
    · subst hk
      simp [lookup_rest_eq_none hl]
    · have hbeq : (k == k') = false := by simpa using hk
      simp [hbeq]

/-- In a union the second map's value is found first. -/
theorem get?_union (m n : SortedMap Key Value) (k : Key) :
    (m.union n).get? k = (n.get? k).or (m.get? k) := by
  -- the second map is inserted entry by entry, into maps that grow
  obtain ⟨l, hl⟩ := n
  change (l.foldl (fun acc e => acc.insert e.1 e.2) m).get? k = (l.lookup k).or (m.get? k)
  induction l generalizing m with
  | nil => rfl
  | cons e rest ih =>
    obtain ⟨k', v'⟩ := e
    rw [List.foldl_cons, ih _ (List.pairwise_cons.mp hl).2, List.lookup_cons]
    by_cases hk : k = k'
    · subst hk
      simp [lookup_rest_eq_none hl]
    · have hbeq : (k == k') = false := by simpa using hk
      rw [hbeq, get?_insert_of_ne _ _ hk]

/-- In a union of many maps the last one that has the key is found first. -/
theorem get?_foldl_union {α : Type} (f : α → SortedMap Key Value) (l : List α)
    (m : SortedMap Key Value) (k : Key) :
    (l.foldl (fun acc a => acc.union (f a)) m).get? k
      = (l.reverse.findSome? fun a => (f a).get? k).or (m.get? k) := by
  induction l generalizing m with
  | nil => rfl
  | cons a rest ih =>
    rw [List.foldl_cons, ih, get?_union, List.reverse_cons, List.findSome?_append, Option.or_assoc]
    congr 2
    rw [List.findSome?_cons]
    cases (f a).get? k <;> rfl

omit [Std.LawfulEqOrd Key] [BEq Key] [LawfulBEq Key] in
/-- An entry with a key above all others goes to the end. -/
theorem insertBy_of_forall_lt {k : Key} {v : Value} {l : List (Key × Value)}
    (h : ∀ e ∈ l, compare e.1 k = .lt) :
    SortedList.insertBy (·.1) (k, v) l = l ++ [(k, v)] := by
  induction l with
  | nil => rfl
  | cons e rest ih =>
    have hgt : compare k e.1 = .gt := Std.OrientedCmp.gt_of_lt (h e List.mem_cons_self)
    have hrest := ih fun e he => h e (List.mem_cons_of_mem _ he)
    simp only [SortedList.insertBy, hgt, hrest, List.cons_append]

omit [BEq Key] [LawfulBEq Key] in
/-- The entries of a map, written one by one, make the map. -/
theorem ofList_entries (m : SortedMap Key Value) : ofList m.entries = m := by
  -- what is written already has lesser keys, so every entry goes to the end
  have hfoldl : ∀ (l : List (Key × Value)) (start : SortedMap Key Value),
      (start.entries ++ l).Pairwise (fun a b => compare a.1 b.1 = .lt) →
      (l.foldl (fun acc e => acc.insert e.1 e.2) start).entries = start.entries ++ l := by
    intro l
    induction l with
    | nil =>
      intro start _
      rw [List.append_nil]
      rfl
    | cons e l ih =>
      intro start hsorted
      have hinsert : (start.insert e.1 e.2).entries = start.entries ++ [e] :=
        insertBy_of_forall_lt fun a ha =>
          (List.pairwise_append.mp hsorted).2.2 a ha e List.mem_cons_self
      rw [List.foldl_cons, ih _ (by rw [hinsert, List.append_assoc]; exact hsorted), hinsert,
        List.append_assoc]
      rfl
  exact ext (hfoldl m.entries ∅ m.sorted)

omit [Std.TransOrd Key] [Std.LawfulEqOrd Key] [LawfulBEq Key] in
@[simp] theorem get?_empty (k : Key) : (∅ : SortedMap Key Value).get? k = none := rfl

end CircuitDispatch.SortedMap
