import CircuitDispatch.Proofs.Json.Layout
import CircuitDispatch.Proofs.Json.Order

/-!
# The front of an object

If the first members of an object have texts that read back, then these members are read whatever
stands behind them: the text of the object is refused, or nothing is read from it, or it is read as
an object with the same first members (`object_of_parse?`). So a record that is read from such a
text has these fields as they were written (`fields?_append`).
-/

namespace CircuitDispatch.Json

variable {depth fuel : Nat} {front back members : List (String × Json)}

/-! ### Texts -/

theorem toList_renderMembers_cons (key : String) (value : Json) (hne : members ≠ []) :
    (renderMembers ((key, value) :: members)).toList
      = (quote key).toList ++ ':' :: (value.render.toList ++ ',' :: (renderMembers members).toList)
    := by
  obtain ⟨next, members, rfl⟩ := List.exists_cons_of_ne_nil hne
  simp only [ReadAs.renderMembers_cons_cons, String.toList_append, List.append_assoc]
  rfl

/-- **The first members are read**, and then the others. -/
theorem members?_append (hback : back ≠ []) (hread : ∀ m ∈ front, ReadAs depth m.2)
    (rest : List Char) (hfuel : 2 * (renderMembers (front ++ back)).toList.length ≤ fuel) :
    members? fuel depth ((renderMembers (front ++ back)).toList ++ rest)
      = (members? (fuel - front.length) depth ((renderMembers back).toList ++ rest)).map
        fun (found, s) => (found.map (front ++ ·), s) := by
  induction front generalizing fuel with
  | nil =>
    change members? fuel depth ((renderMembers back).toList ++ rest) = _
    rcases members? fuel depth ((renderMembers back).toList ++ rest) with _ | ⟨_ | found, s⟩
    · rfl
    · rfl
    · rfl
  | cons member front ih =>
    obtain ⟨key, value⟩ := member
    obtain ⟨hmember, hread⟩ := List.forall_mem_cons.mp hread
    have hvalue : ReadAs depth value := hmember
    have hne : front ++ back ≠ [] := by simp [hback]
    have hlength := length_le_flatMap_escape key.toList
    rw [List.cons_append, toList_renderMembers_cons key value hne] at hfuel ⊢
    simp only [toList_quote, List.length_cons, List.length_append, List.length_nil] at hfuel
    obtain ⟨n, rfl⟩ : ∃ n, fuel = n + 1 := Nat.exists_eq_add_one_of_ne_zero (by omega)
    have hlength' : 2 * (renderMembers (front ++ back)).toList.length ≤ n := by omega
    have hrest := ih hread hlength'
    rw [List.append_assoc, List.cons_append, List.append_assoc, List.cons_append,
      ReadAs.members?_member hvalue (by omega) (by omega) (.cons (by decide)),
      skipBlanks_cons _ rfl, List.length_cons, Nat.add_sub_add_right]
    simp only [hrest]
    rcases members? (n - front.length) depth ((renderMembers back).toList ++ rest) with
      _ | ⟨_ | found, s⟩
    · rfl
    · rfl
    · rfl

/-- **Whatever stands behind them**, the first members are read as they were written. -/
theorem object_of_value? {j : Json} {rest s : List Char} (hback : back ≠ [])
    (hread : ∀ m ∈ front, ReadAs depth m.2)
    (hfuel : 2 * (render (.object (front ++ back))).toList.length ≤ fuel)
    (h : value? fuel (depth + 1) ((render (.object (front ++ back))).toList ++ rest)
      = some (j, s)) :
    j = .unreadable ∨ ∃ others, j = .object (front ++ others) := by
  have htext : (render (.object (front ++ back))).toList
      = '\x7b' :: ((renderMembers (front ++ back)).toList ++ ['\x7d']) := by
    simp only [render, String.toList_append, List.append_assoc]
    rfl
  rw [htext] at h hfuel
  simp only [List.length_cons, List.length_append, List.length_nil] at hfuel
  obtain ⟨n, rfl⟩ : ∃ n, fuel = n + 1 := Nat.exists_eq_add_one_of_ne_zero (by omega)
  have hlength : 2 * (renderMembers (front ++ back)).toList.length ≤ n := by omega
  have hmembers := members?_append hback hread ('\x7d' :: rest) hlength
  -- the text of the members starts with the quote of the first key
  have hne : front ++ back ≠ [] := by simp [hback]
  obtain ⟨t, ht⟩ := ReadAs.head_renderMembers hne
  have hblank : isBlank '"' = false := rfl
  rw [value?, List.cons_append, skipBlanks_cons _ rfl, List.append_assoc] at h
  rw [ht] at h hmembers
  simp only [List.cons_append, List.nil_append, skipBlanks_cons _ hblank] at h hmembers
  split at h
  · next heq => exact absurd (List.cons.inj heq).1 (by decide)
  · rw [Nat.add_sub_cancel, hmembers] at h
    -- behind them other members are read, or none, or some with a key that is no text
    generalize members? (n - front.length) depth ((renderMembers back).toList ++ '\x7d' :: rest)
      = found at h
    rcases found with _ | ⟨_ | others, s⟩
    · cases h
    · cases h
      exact Or.inl rfl
    · cases h
      exact Or.inr ⟨others, rfl⟩

theorem object_of_parse? {j : Json} (hback : back ≠ [])
    (hread : ∀ m ∈ front, ReadAs (depthLimit - 1) m.2)
    (hparse : parse? (render (.object (front ++ back))) = some j) :
    j = .unreadable ∨ ∃ others, j = .object (front ++ others) := by
  rw [parse?] at hparse
  obtain ⟨⟨value, rest⟩, hvalue, hdone⟩ := Option.bind_eq_some_iff.mp hparse
  obtain rfl : value = j := by
    by_cases hrest : (skipBlanks rest).isEmpty = true
    · exact Option.some.inj ((if_pos hrest).symm.trans hdone)
    · cases (if_neg hrest).symm.trans hdone
  rw [← List.append_nil (render _).toList] at hvalue
  refine object_of_value? hback hread ?_ hvalue
  rw [List.append_nil]
  omega

/-! ### Fields -/

/-- The only member with its name is found under it. -/
theorem given_of_soleField {m : String × Json} {f : Field} (hm : m ∈ members)
    (h : soleField (members.filter fun n => n.1 == m.1) = some f) : f = .given m.2 := by
  have hfound : m ∈ members.filter fun n => n.1 == m.1 :=
    List.mem_filter.mpr ⟨hm, beq_self_eq_true _⟩
  rcases hsole : members.filter fun n => n.1 == m.1 with _ | ⟨n, _ | ⟨n', others⟩⟩
  · rw [hsole] at hfound
    cases hfound
  · rw [hsole] at h hfound
    cases h
    rw [List.mem_singleton.mp hfound]
  · rw [hsole] at h
    cases h

/-- **The fields of a record** are what the members with their names say, whatever other members
there are. -/
theorem fields?_append {names : List String} {fields : List Field} (hfront : front ⊆ members)
    (h : fields? (front.map (·.1) ++ names) (.object members) = some fields) :
    ∃ others, fields? names (.object members) = some others ∧
      fields = front.map (fun m => .given m.2) ++ others := by
  induction front generalizing fields with
  | nil => exact ⟨fields, h, rfl⟩
  | cons m front ih =>
    obtain ⟨hm, hfront⟩ := List.cons_subset.mp hfront
    rw [List.map_cons, List.cons_append, fields?_object_cons] at h
    obtain ⟨f, hf, h⟩ := Option.bind_eq_some_iff.mp h
    obtain ⟨fields, hfields, rfl⟩ := Option.map_eq_some_iff.mp h
    obtain ⟨others, hothers, rfl⟩ := ih hfront hfields
    exact ⟨others, hothers, by rw [given_of_soleField hm hf]; rfl⟩

end CircuitDispatch.Json
