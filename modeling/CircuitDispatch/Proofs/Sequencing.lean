import Mathlib.Data.List.Forall2
import Mathlib.Data.List.ReduceOption
import CircuitDispatch.Circuit.Error

/-!
# Chains of steps that can fail

When a chain of steps succeeds, every step of it does, and when it fails, it fails with the error of
the first step that does. These are the readings of `bind`, `List.mapM`, `List.filterMapM` and
`List.foldlM` that other proofs take such chains apart with.

`SameOutcome` compares two chains that fail together, with the same error, and `FailAlike` is all of
this but the results. A chain of steps fails as the chain of all that these steps are made of
(`failAlike_mapM_flatMap`).
-/

namespace CircuitDispatch

variable {ε ε' α β α' β' : Type}

/-- A chain of two steps succeeds exactly if both do. -/
theorem bind_eq_ok_iff {x : Except ε α} {f : α → Except ε β} {b : β} :
    (x >>= f) = .ok b ↔ ∃ a, x = .ok a ∧ f a = .ok b := by
  cases x with
  | error e =>
    refine ⟨fun h => ?_, fun ⟨a, h, _⟩ => ?_⟩
    · cases h
    · cases h
  | ok a =>
    refine ⟨fun h => ⟨a, rfl, h⟩, fun ⟨a', h, hf⟩ => ?_⟩
    cases h
    exact hf

/-- A chain of two steps fails with the error of the step that fails. -/
theorem bind_eq_error_iff {x : Except ε α} {f : α → Except ε β} {e : ε} :
    (x >>= f) = .error e ↔ x = .error e ∨ ∃ a, x = .ok a ∧ f a = .error e := by
  cases x with
  | error e' =>
    refine ⟨fun h => .inl (congrArg Except.error (Except.error.inj h)), fun h => ?_⟩
    rcases h with h | ⟨a, h, _⟩
    · exact congrArg Except.error (Except.error.inj h)
    · cases h
  | ok a =>
    refine ⟨fun h => .inr ⟨a, rfl, h⟩, fun h => ?_⟩
    rcases h with h | ⟨a', h, hf⟩
    · cases h
    · cases h
      exact hf

/-- Returning a value succeeds with this value. -/
theorem pure_eq_ok_iff {a b : α} : (pure a : Except ε α) = .ok b ↔ a = b := by
  refine ⟨fun h => ?_, fun h => by rw [h]; rfl⟩
  cases h
  rfl

/-- A result that is changed was a result before. -/
theorem map_eq_ok_iff {f : α → β} {x : Except ε α} {b : β} :
    x.map f = .ok b ↔ ∃ a, x = .ok a ∧ f a = b := by
  cases x with
  | error e =>
    refine ⟨fun h => ?_, fun ⟨a, h, _⟩ => ?_⟩
    · cases h
    · cases h
  | ok a =>
    refine ⟨fun h => ⟨a, rfl, Except.ok.inj h⟩, fun ⟨a', h, hb⟩ => ?_⟩
    cases h
    exact congrArg Except.ok hb

/-- Changing the error does not change what succeeds. -/
theorem mapError_eq_ok_iff {f : ε → ε'} {x : Except ε α} {a : α} :
    x.mapError f = .ok a ↔ x = .ok a := by
  cases x with
  | error e =>
    refine ⟨fun h => ?_, fun h => ?_⟩
    · cases h
    · cases h
  | ok a => rw [Except.mapError, Except.ok.injEq, Except.ok.injEq]

/-- A fold over a list succeeds exactly if its first step and the fold over the rest do. -/
theorem foldlM_cons_eq_ok_iff {f : β → α → Except ε β} {a : α} {l : List α} {s t : β} :
    (a :: l).foldlM f s = .ok t ↔ ∃ u, f s a = .ok u ∧ l.foldlM f u = .ok t := by
  rw [List.foldlM_cons]
  exact bind_eq_ok_iff

/-- **An invariant of the steps** holds of the state that they leave. -/
theorem foldlM_invariant {f : β → α → Except ε β} (P : β → Prop) {l : List α}
    (hstep : ∀ a ∈ l, ∀ s t, P s → f s a = .ok t → P t) {s t : β} (hs : P s)
    (h : l.foldlM f s = .ok t) : P t := by
  -- by induction on the steps to come, for every state that they start from
  induction l generalizing s with
  | nil =>
    cases h
    exact hs
  | cons a l ih =>
    obtain ⟨u, hfirst, hrest⟩ := foldlM_cons_eq_ok_iff.mp h
    have hu : P u := hstep a List.mem_cons_self s u hs hfirst
    exact ih (fun b hb => hstep b (List.mem_cons_of_mem a hb)) hu hrest

/-- A step for every element succeeds exactly if each does. -/
theorem mapM_eq_ok_iff {f : α → Except ε β} {l : List α} {bs : List β} :
    l.mapM f = .ok bs ↔ List.Forall₂ (fun a b => f a = .ok b) l bs := by
  induction l generalizing bs with
  | nil =>
    rw [List.mapM_nil, List.forall₂_nil_left_iff, pure_eq_ok_iff]
    exact eq_comm
  | cons a l ih =>
    rw [List.mapM_cons, bind_eq_ok_iff, List.forall₂_cons_left_iff]
    refine exists_congr fun b => ?_
    rw [bind_eq_ok_iff]
    simp only [pure_eq_ok_iff, ih, exists_and_left, eq_comm (a := bs)]

/-- A result of the steps is the result of one of them. -/
theorem exists_of_mem_mapM {f : α → Except ε β} {l : List α} {bs : List β}
    (h : l.mapM f = .ok bs) : ∀ b ∈ bs, ∃ a ∈ l, f a = .ok b := by
  replace h := mapM_eq_ok_iff.mp h
  induction h with
  | nil => exact List.forall_mem_nil _
  | @cons a b l bs hstep _ ih =>
    refine List.forall_mem_cons.mpr ⟨⟨a, List.mem_cons_self, hstep⟩, fun b' hb' => ?_⟩
    obtain ⟨a', ha', hstep'⟩ := ih b' hb'
    exact ⟨a', List.mem_cons_of_mem a ha', hstep'⟩

/-- Steps succeed for a list exactly if they do for every element. -/
theorem exists_mapM_eq_ok_iff {f : α → Except ε β} {l : List α} :
    (∃ bs, l.mapM f = .ok bs) ↔ ∀ a ∈ l, ∃ b, f a = .ok b := by
  induction l with
  | nil => exact ⟨fun _ => List.forall_mem_nil _, fun _ => ⟨[], rfl⟩⟩
  | cons a l ih =>
    rw [List.forall_mem_cons, ← ih]
    simp only [mapM_eq_ok_iff, List.forall₂_cons_left_iff]
    constructor
    · rintro ⟨_, b, bs, hstep, hrest, -⟩
      exact ⟨⟨b, hstep⟩, bs, hrest⟩
    · rintro ⟨⟨b, hstep⟩, bs, hrest⟩
      exact ⟨_, b, bs, hstep, hrest, rfl⟩

/-- Steps for two lists, one after the other. -/
theorem mapM_append_eq_ok_iff {f : α → Except ε β} {l l' : List α} {bs : List β} :
    (l ++ l').mapM f = .ok bs ↔
      ∃ first second, l.mapM f = .ok first ∧ l'.mapM f = .ok second ∧ bs = first ++ second := by
  rw [List.mapM_append, bind_eq_ok_iff]
  refine exists_congr fun first => ?_
  rw [bind_eq_ok_iff]
  simp only [pure_eq_ok_iff, exists_and_left, eq_comm (a := bs)]

/-- **The first step that fails** fails the whole list. -/
theorem exists_of_mapM_eq_error {f : α → Except ε β} {l : List α} {e : ε}
    (h : l.mapM f = .error e) : ∃ before a after, l = before ++ a :: after ∧
      (∀ x ∈ before, ∃ b, f x = .ok b) ∧ f a = .error e := by
  induction l with
  | nil => cases h
  | cons a l ih =>
    rw [List.mapM_cons] at h
    rcases bind_eq_error_iff.mp h with hstep | ⟨b, hstep, hrest⟩
    · exact ⟨[], a, l, rfl, List.forall_mem_nil _, hstep⟩
    · rcases bind_eq_error_iff.mp hrest with hrest | ⟨bs, -, hpure⟩
      · obtain ⟨before, a', after, rfl, hbefore, hfails⟩ := ih hrest
        exact ⟨a :: before, a', after, rfl, List.forall_mem_cons.mpr ⟨⟨b, hstep⟩, hbefore⟩, hfails⟩
      · cases hpure

/-- Elements may be dropped before the steps, or their results after them. -/
theorem mapM_filter_eq_ok {f : α → Except ε β} {l : List α} {bs : List β} {p : α → Bool}
    {p' : β → Bool} (h : l.mapM f = .ok bs)
    (hp : ∀ a ∈ l, ∀ b, f a = .ok b → p a = p' b) : (l.filter p).mapM f = .ok (bs.filter p') := by
  have hsteps := (List.forall₂_and_left l bs).mpr ⟨fun a ha => hp a ha, mapM_eq_ok_iff.mp h⟩
  refine mapM_eq_ok_iff.mpr ((List.rel_filter ?_ hsteps).imp fun _ _ hstep => hstep.2)
  rintro a b ⟨hstep, hb⟩
  exact Bool.eq_iff_iff.mp (hstep b hb)

/-! ### Steps that may leave no result -/

/-- The results that are left can be collected after all steps. -/
theorem filterMapM_eq (f : α → Except ε (Option β)) (l : List α) :
    l.filterMapM f = (l.mapM f).map List.reduceOption := by
  induction l with
  | nil => rfl
  | cons a l ih =>
    rw [List.filterMapM_cons, List.mapM_cons, ih]
    cases f a with
    | error e => rfl
    | ok b =>
      -- the rest succeeds or fails alike, whether or not the first step leaves a result
      cases b <;> cases l.mapM f <;> rfl

/-- The first element leaves at most one result, in front of those of the rest. -/
theorem filterMapM_cons_eq_ok_iff {f : α → Except ε (Option β)} {a : α} {l : List α}
    {bs : List β} : (a :: l).filterMapM f = .ok bs ↔
      ∃ b rest, f a = .ok b ∧ l.filterMapM f = .ok rest ∧ bs = b.toList ++ rest := by
  rw [List.filterMapM_cons, bind_eq_ok_iff]
  refine exists_congr fun b => ?_
  cases b with
  | none => simp
  | some b =>
    simp only [bind_eq_ok_iff, pure_eq_ok_iff, exists_and_left, eq_comm (a := bs),
      Option.toList_some, List.singleton_append]

/-- A result of such steps is left by one of them. -/
theorem exists_of_mem_filterMapM {f : α → Except ε (Option β)} {l : List α} {bs : List β}
    (h : l.filterMapM f = .ok bs) : ∀ b ∈ bs, ∃ a ∈ l, f a = .ok (some b) := by
  rw [filterMapM_eq] at h
  obtain ⟨results, hresults, rfl⟩ := map_eq_ok_iff.mp h
  intro b hb
  exact exists_of_mem_mapM hresults (some b) (List.reduceOption_mem_iff.mp hb)

/-- What is read off a result can be read off the element that leaves it. -/
theorem filterMap_of_filterMapM {f : α → Except ε (Option β)} {key : β → Option α'}
    {key' : α → Option α'} (hkey : ∀ a b, f a = .ok b → b.bind key = key' a) {l : List α}
    {bs : List β} (h : l.filterMapM f = .ok bs) : bs.filterMap key = l.filterMap key' := by
  induction l generalizing bs with
  | nil =>
    cases h
    rfl
  | cons a l ih =>
    obtain ⟨b, rest, hstep, hrest, rfl⟩ := filterMapM_cons_eq_ok_iff.mp h
    have hfirst : b.toList.filterMap key = (key' a).toList := by
      rw [← hkey a b hstep]
      cases b with
      | none => rfl
      | some b => rfl
    rw [List.filterMap_append, hfirst, ih hrest, List.filterMap_cons]
    cases key' a with
    | none => rfl
    | some k => rfl

/-! ### Two chains side by side -/

/-- Two steps that fail with the same error, or succeed with related results. -/
inductive SameOutcome (r : α → β → Prop) : Except ε α → Except ε β → Prop where
  | error (e : ε) : SameOutcome r (.error e) (.error e)
  | ok {a : α} {b : β} (h : r a b) : SameOutcome r (.ok a) (.ok b)

namespace SameOutcome

theorem refl (x : Except ε α) : SameOutcome Eq x x := by
  cases x with
  | error e => exact .error e
  | ok a => exact .ok rfl

/-- What succeeds on one side succeeds on the other. -/
theorem exists_left {r : α → β → Prop} {x : Except ε α} {b : β} (h : SameOutcome r x (.ok b)) :
    ∃ a, x = .ok a ∧ r a b := by
  cases h with
  | ok hab => exact ⟨_, rfl, hab⟩

/-- Chains have the same outcome if their first steps do, and then their second steps. -/
theorem bind {r : α → β → Prop} {r' : α' → β' → Prop} {x : Except ε α} {y : Except ε β}
    {f : α → Except ε α'} {g : β → Except ε β'} (h : SameOutcome r x y)
    (hrest : ∀ a b, r a b → SameOutcome r' (f a) (g b)) : SameOutcome r' (x >>= f) (y >>= g) := by
  cases h with
  | error e => exact .error e
  | ok hab => exact hrest _ _ hab

end SameOutcome

/-- Two chains that fail together, with the same error, whatever their results are. -/
def FailAlike (x : Except ε α) (y : Except ε β) : Prop := SameOutcome (fun _ _ => True) x y

namespace FailAlike

variable {x : Except ε α} {y : Except ε β}

theorem exists_ok_iff (h : FailAlike x y) : (∃ a, x = .ok a) ↔ ∃ b, y = .ok b := by
  cases h with
  | error e => exact iff_of_false nofun nofun
  | ok => exact iff_of_true ⟨_, rfl⟩ ⟨_, rfl⟩

theorem eq_error_iff (h : FailAlike x y) {e : ε} : x = .error e ↔ y = .error e := by
  cases h with
  | error e' => rw [Except.error.injEq, Except.error.injEq]
  | ok => exact iff_of_false nofun nofun

/-- The result of one side may be changed. -/
theorem map (h : FailAlike x y) (f : α → α') : FailAlike (x.map f) y := by
  cases h with
  | error e => exact .error e
  | ok => exact .ok trivial

end FailAlike

/-- **Steps that are made of smaller ones** fail as all the smaller ones in a row. -/
theorem failAlike_mapM_flatMap {f : α → Except ε β} {parts : α' → List α}
    {step : α' → Except ε β'} {finish : α' → List β → β'}
    (hstep : ∀ x, step x = ((parts x).mapM f).map (finish x)) (l : List α') :
    FailAlike (l.mapM step) ((l.flatMap parts).mapM f) := by
  induction l with
  | nil => exact .ok trivial
  | cons x l ih =>
    rw [List.mapM_cons, List.flatMap_cons, List.mapM_append, hstep]
    cases (parts x).mapM f with
    | error e => exact .error e
    | ok values => exact ih.bind fun _ _ _ => .ok trivial

end CircuitDispatch
