import CircuitDispatch.Proofs.Json.Strings

/-!
# JSON texts read back

`Printable` says which values have a text that reads back: numbers within 64 bits or with a text
of their own that reads back, nothing unreadable, and no deeper nesting than the reader allows.
The main statement is `parse?_render`. Its induction goes along the value; what is proved of a part
is that its text is read wherever it stands, up to a character that ends numbers (`ReadAs`).
-/

namespace CircuitDispatch.Json

/-- A value whose text reads back, with at most so many arrays and objects around each other. -/
inductive Printable : Nat → Json → Prop where
  | null {depth : Nat} : Printable depth .null
  | bool {depth : Nat} {b : Bool} : Printable depth (.bool b)
  | integer {depth : Nat} {i : Int} (hlow : -2 ^ 63 ≤ i) (hhigh : i < 2 ^ 64) :
    Printable depth (.integer i)
  | number {depth : Nat} {x : Float} (hfinite : x.isFinite = true) (hback : ReadsBack x) :
    Printable depth (.number x)
  | string {depth : Nat} {s : String} : Printable depth (.string s)
  | array {depth : Nat} {items : List Json} (hitems : ∀ item ∈ items, Printable depth item) :
    Printable (depth + 1) (.array items)
  | object {depth : Nat} {members : List (String × Json)}
      (hmembers : ∀ m ∈ members, Printable depth m.2) :
    Printable (depth + 1) (.object members)

/-- The text of a value is read as the value, up to a character that ends numbers. -/
structure ReadAs (depth : Nat) (j : Json) : Prop where
  /-- The text starts with a character that is no blank and closes nothing. -/
  head : ∃ c s, j.render.toList = c :: s ∧ isBlank c = false ∧ c ≠ ']'
  /-- A step for each character would be enough; two are allowed. -/
  read : ∀ fuel rest, 2 * j.render.toList.length ≤ fuel → EndsNumber rest →
    value? fuel depth (j.render.toList ++ rest) = some (j, rest)

@[simp] theorem skipBlanks_cons {c : Char} (s : List Char) (h : isBlank c = false) :
    skipBlanks (c :: s) = c :: s := by
  simp [skipBlanks, h]

namespace ReadAs

variable {depth : Nat}

/-! ### Plain values -/

/-- Steps that are enough for a text that is not empty are not none. -/
private theorem exists_fuel {c : Char} {s : List Char} {fuel : Nat}
    (h : 2 * (c :: s).length ≤ fuel) : ∃ n, fuel = n + 1 :=
  Nat.exists_eq_add_one_of_ne_zero (by rw [List.length_cons] at h; omega)

/-- A word stands for its value. -/
private theorem word {j : Json} {c : Char} {s : List Char} (htext : j.render.toList = c :: s)
    (hblank : isBlank c = false) (hclose : c ≠ ']')
    (hread : ∀ fuel rest, value? (fuel + 1) depth (c :: s ++ rest) = some (j, rest)) :
    ReadAs depth j where
  head := ⟨c, s, htext, hblank, hclose⟩
  read fuel rest hfuel _ := by
    rw [htext] at hfuel ⊢
    obtain ⟨n, rfl⟩ := exists_fuel hfuel
    exact hread n rest

theorem null : ReadAs depth .null :=
  word (c := 'n') (s := ['u', 'l', 'l']) rfl rfl (by decide) fun fuel rest => by
    simp [value?, isBlank, dropWord?]

theorem bool (b : Bool) : ReadAs depth (.bool b) := by
  cases b with
  | true =>
    refine word (c := 't') (s := ['r', 'u', 'e']) rfl rfl (by decide) fun fuel rest => ?_
    simp [value?, isBlank, dropWord?]
  | false =>
    refine word (c := 'f') (s := ['a', 'l', 's', 'e']) rfl rfl (by decide) fun fuel rest => ?_
    simp [value?, isBlank, dropWord?]

/-- The text of a number is read as the number. -/
theorem number {j : Json} (h : number? j.render.toList = some (j, [])) : ReadAs depth j := by
  obtain ⟨c, s, hs, hc⟩ := head_of_number? h
  have hother : ∀ d ∈ ['n', 't', 'f', '"', '[', '\x7b', ']', ' ', '\t', '\n', '\r'], c ≠ d := by
    rintro d hd rfl
    rcases hc with rfl | hdigit
    · exact absurd hd (by decide)
    · have hall : (['n', 't', 'f', '"', '[', '\x7b', ']', ' ', '\t', '\n', '\r'].all
        fun d => !d.isDigit) = true := rfl
      rw [List.all_eq_true] at hall
      have hnot := hall c hd
      rw [hdigit] at hnot
      cases hnot
  have hblank : isBlank c = false := by
    simp [isBlank, hother ' ' (by simp), hother '\t' (by simp), hother '\n' (by simp),
      hother '\r' (by simp)]
  refine ⟨⟨c, s, hs, hblank, hother ']' (by simp)⟩, fun fuel rest hfuel hrest => ?_⟩
  have hnumber := readsOn_number? _ _ _ rest hrest h
  rw [hs] at hfuel hnumber ⊢
  obtain ⟨n, rfl⟩ := exists_fuel hfuel
  rw [value?, List.cons_append, skipBlanks_cons _ hblank]
  split
  case h_7 => exact hnumber
  all_goals
    next heq => exact absurd (List.cons.inj heq).1 (hother _ (by simp))

theorem string (s : String) : ReadAs depth (.string s) where
  head := ⟨'"', _, by rw [render, toList_quote], rfl, by decide⟩
  read fuel rest hfuel _ := by
    rw [render, toList_quote] at hfuel ⊢
    obtain ⟨n, rfl⟩ := exists_fuel hfuel
    have hlength := length_le_flatMap_escape s.toList
    simp only [List.length_cons, List.length_append, List.length_nil] at hfuel
    rw [value?, List.cons_append, skipBlanks_cons _ rfl]
    simp only [List.append_assoc, List.singleton_append]
    rw [string?_quote (by omega)]
    rfl

/-! ### Arrays and objects -/

theorem renderItems_cons_cons (item next : Json) (items : List Json) :
    renderItems (item :: next :: items) = item.render ++ "," ++ renderItems (next :: items) := by
  rw [renderItems]
  intro h
  cases h

/-- The items of an array are read up to the closing bracket. -/
theorem items?_renderItems {items : List Json} (hne : items ≠ [])
    (hread : ∀ item ∈ items, ReadAs depth item) {fuel : Nat} (rest : List Char)
    (hfuel : 2 * (renderItems items).toList.length + 1 ≤ fuel) :
    items? fuel depth ((renderItems items).toList ++ ']' :: rest) = some (items, rest) := by
  induction items generalizing fuel with
  | nil => exact absurd rfl hne
  | cons item items ih =>
    obtain ⟨n, rfl⟩ := Nat.exists_eq_add_one_of_ne_zero (Nat.ne_zero_of_lt hfuel)
    have hitem := hread item List.mem_cons_self
    cases items with
    | nil =>
      rw [renderItems] at hfuel ⊢
      rw [items?, hitem.read n _ (by omega) (.cons (by decide))]
      simp [isBlank]
    | cons next items =>
      have htext : (renderItems (item :: next :: items)).toList ++ ']' :: rest
          = item.render.toList ++ ',' :: ((renderItems (next :: items)).toList ++ ']' :: rest) := by
        rw [renderItems_cons_cons, String.toList_append, String.toList_append]
        simp
      rw [renderItems_cons_cons] at hfuel
      simp only [String.toList_append, List.length_append] at hfuel
      have hcomma : ",".toList.length = 1 := rfl
      rw [htext, items?, hitem.read n _ (by omega) (.cons (by decide))]
      have hfuel' : 2 * (renderItems (next :: items)).toList.length + 1 ≤ n := by omega
      have hrest := ih (by simp) (fun item hitem => hread item (List.mem_cons_of_mem _ hitem)) hfuel'
      simp [isBlank, hrest]

theorem head_renderItems {items : List Json} (hne : items ≠ [])
    (hread : ∀ item ∈ items, ReadAs depth item) :
    ∃ c s, (renderItems items).toList = c :: s ∧ isBlank c = false ∧ c ≠ ']' := by
  cases items with
  | nil => exact absurd rfl hne
  | cons item items =>
    obtain ⟨c, s, hs, hc⟩ := (hread item List.mem_cons_self).head
    cases items with
    | nil =>
      rw [renderItems]
      exact ⟨c, s, hs, hc⟩
    | cons next items =>
      rw [renderItems_cons_cons, String.toList_append, String.toList_append, hs]
      exact ⟨c, _, rfl, hc⟩

theorem array {items : List Json} (hread : ∀ item ∈ items, ReadAs depth item) :
    ReadAs (depth + 1) (.array items) := by
  have htext : (render (.array items)).toList = '[' :: ((renderItems items).toList ++ [']']) := by
    simp only [render, String.toList_append, List.append_assoc]
    rfl
  refine ⟨⟨'[', _, htext, rfl, by decide⟩, fun fuel rest hfuel _ => ?_⟩
  rw [htext] at hfuel ⊢
  obtain ⟨n, rfl⟩ := exists_fuel hfuel
  simp only [List.length_cons, List.length_append, List.length_nil] at hfuel
  rw [value?, List.cons_append, skipBlanks_cons _ rfl, List.append_assoc, List.singleton_append]
  by_cases hne : items = []
  · subst hne
    rfl
  · obtain ⟨c, s, hs, hblank, hclose⟩ := head_renderItems hne hread
    have hfuel' : 2 * (renderItems items).toList.length + 1 ≤ n := by omega
    have hitems := items?_renderItems hne hread rest hfuel'
    rw [hs] at hitems ⊢
    rw [List.cons_append] at hitems ⊢
    simp only [skipBlanks_cons _ hblank, Nat.add_sub_cancel]
    split
    · next heq => exact absurd (List.cons.inj heq).1 hclose
    · rw [hitems]
      rfl

theorem renderMembers_cons_cons (key : String) (value : Json) (next : String × Json)
    (members : List (String × Json)) :
    renderMembers ((key, value) :: next :: members)
      = quote key ++ ":" ++ value.render ++ "," ++ renderMembers (next :: members) := by
  rw [renderMembers]
  intro h
  cases h

theorem head_renderMembers {members : List (String × Json)} (hne : members ≠ []) :
    ∃ s, (renderMembers members).toList = '"' :: s := by
  cases members with
  | nil => exact absurd rfl hne
  | cons member members =>
    obtain ⟨key, value⟩ := member
    cases members with
    | nil => simp [renderMembers, toList_quote]
    | cons next members => simp [renderMembers_cons_cons, toList_quote]

/-- A member is read, and then what follows it. -/
theorem members?_member {key : String} {value : Json} (hvalue : ReadAs depth value) {n : Nat}
    {tail : List Char} (hkey : key.toList.length < n) (hfuel : 2 * value.render.toList.length ≤ n)
    (htail : EndsNumber tail) :
    members? (n + 1) depth ((quote key).toList ++ ':' :: (value.render.toList ++ tail))
      = match skipBlanks tail with
        | ',' :: s => (members? n depth s).bind fun (rest, s) =>
          some (rest.map ((key, value) :: ·), s)
        | '\x7d' :: s => some (some [(key, value)], s)
        | _ => none := by
  rw [members?, toList_quote, List.cons_append, skipBlanks_cons _ rfl]
  simp only [List.append_assoc, List.singleton_append]
  rw [string?_quote hkey]
  simp only [Option.bind_eq_bind, Option.bind_some]
  rw [skipBlanks_cons _ rfl]
  change (value? n depth (value.render.toList ++ tail)).bind _ = _
  rw [hvalue.read n tail hfuel htail]
  rfl

/-- The members of an object are read up to the closing brace. -/
theorem members?_renderMembers {members : List (String × Json)} (hne : members ≠ [])
    (hread : ∀ m ∈ members, ReadAs depth m.2) {fuel : Nat} (rest : List Char)
    (hfuel : 2 * (renderMembers members).toList.length + 1 ≤ fuel) :
    members? fuel depth ((renderMembers members).toList ++ '\x7d' :: rest)
      = some (some members, rest) := by
  induction members generalizing fuel with
  | nil => exact absurd rfl hne
  | cons member members ih =>
    obtain ⟨n, rfl⟩ := Nat.exists_eq_add_one_of_ne_zero (Nat.ne_zero_of_lt hfuel)
    obtain ⟨key, value⟩ := member
    have hvalue : ReadAs depth value := hread (key, value) List.mem_cons_self
    have hlength := length_le_flatMap_escape key.toList
    cases members with
    | nil =>
      have htext : (renderMembers [(key, value)]).toList
          = (quote key).toList ++ ':' :: value.render.toList := by
        simp only [renderMembers, String.toList_append, List.append_assoc]
        rfl
      rw [htext] at hfuel ⊢
      simp only [toList_quote, List.length_cons, List.length_append, List.length_nil] at hfuel
      rw [List.append_assoc, List.cons_append,
        members?_member hvalue (by omega) (by omega) (.cons (by decide)), skipBlanks_cons _ rfl]
      rfl
    | cons next members =>
      have htext : (renderMembers ((key, value) :: next :: members)).toList
          = (quote key).toList ++ ':' ::
            (value.render.toList ++ ',' :: (renderMembers (next :: members)).toList) := by
        simp only [renderMembers_cons_cons, String.toList_append, List.append_assoc]
        rfl
      rw [htext] at hfuel ⊢
      simp only [toList_quote, List.length_cons, List.length_append, List.length_nil] at hfuel
      have hfuel' : 2 * (renderMembers (next :: members)).toList.length + 1 ≤ n := by omega
      have hrest := ih (by simp) (fun m hm => hread m (List.mem_cons_of_mem _ hm)) hfuel'
      rw [List.append_assoc, List.cons_append, List.append_assoc, List.cons_append,
        members?_member hvalue (by omega) (by omega) (.cons (by decide)), skipBlanks_cons _ rfl]
      simp only [hrest, Option.bind_some, Option.map_some]

theorem object {members : List (String × Json)} (hread : ∀ m ∈ members, ReadAs depth m.2) :
    ReadAs (depth + 1) (.object members) := by
  have htext : (render (.object members)).toList
      = '\x7b' :: ((renderMembers members).toList ++ ['\x7d']) := by
    simp only [render, String.toList_append, List.append_assoc]
    rfl
  refine ⟨⟨'\x7b', _, htext, rfl, by decide⟩, fun fuel rest hfuel _ => ?_⟩
  rw [htext] at hfuel ⊢
  obtain ⟨n, rfl⟩ := exists_fuel hfuel
  simp only [List.length_cons, List.length_append, List.length_nil] at hfuel
  rw [value?, List.cons_append, skipBlanks_cons _ rfl, List.append_assoc, List.singleton_append]
  by_cases hne : members = []
  · subst hne
    rfl
  · -- the text of the members starts with the quote of the first key
    obtain ⟨s, hs⟩ := head_renderMembers hne
    have hfuel' : 2 * (renderMembers members).toList.length + 1 ≤ n := by omega
    have hmembers := members?_renderMembers hne hread rest hfuel'
    have hblank : isBlank '"' = false := rfl
    rw [hs] at hmembers ⊢
    rw [List.cons_append] at hmembers ⊢
    simp only [skipBlanks_cons _ hblank, Nat.add_sub_cancel]
    split
    · next heq => exact absurd (List.cons.inj heq).1 (by decide)
    · rw [hmembers]
      rfl

end ReadAs

/-- The text of a printable value is read as the value. -/
theorem Printable.readAs {depth : Nat} {j : Json} (h : Printable depth j) : ReadAs depth j := by
  induction h with
  | null => exact .null
  | bool => exact .bool _
  | integer hlow hhigh => exact .number (number?_toString hlow hhigh)
  | number hfinite hback =>
    refine .number ?_
    rw [render, if_pos hfinite]
    exact hback
  | string => exact .string _
  | array _ ih => exact .array ih
  | object _ ih => exact .object ih

/-- **The text of a value reads back.** -/
theorem parse?_render {j : Json} (h : Printable depthLimit j) : parse? j.render = some j := by
  have hread := h.readAs.read (2 * j.render.toList.length + 2) [] (by omega) .nil
  rw [List.append_nil] at hread
  simp only [parse?, hread, Option.bind_eq_bind, Option.bind_some]
  rfl

end CircuitDispatch.Json
