import Mathlib.Algebra.Group.Int.Defs
import Mathlib.Data.List.TakeWhile
import CircuitDispatch.Json.Parser
import CircuitDispatch.Json.Printer

/-!
# Numbers in JSON texts

A number is read up to the first character that cannot be part of it. So what is read of a text
that holds nothing but the number is read the same when a text follows that ends the number
(`readsOn_number?`), and it is enough to look at the text of the number alone: an integer of
64 bits reads back (`number?_toString`), and of a double `ReadsBack` says so.
-/

namespace CircuitDispatch.Json

variable {α β : Type}

/-- A text that does not go on with a number that stands before it. -/
def EndsNumber (s : List Char) : Prop :=
  ∀ c ∈ s.head?, c.isDigit = false ∧ c ≠ '.' ∧ c ≠ 'e' ∧ c ≠ 'E'

theorem EndsNumber.nil : EndsNumber [] := by
  intro c hc
  cases hc

theorem EndsNumber.cons {c : Char} {s : List Char}
    (h : c.isDigit = false ∧ c ≠ '.' ∧ c ≠ 'e' ∧ c ≠ 'E') : EndsNumber (c :: s) := by
  rintro _ ⟨⟩
  exact h

/-! ### What follows a number -/

/-- What a reader reads, it also reads where a text follows that ends the number. -/
def ReadsOn (read : List Char → Option (α × List Char)) : Prop :=
  ∀ s a t rest, EndsNumber rest → read s = some (a, t) → read (s ++ rest) = some (a, t ++ rest)

namespace ReadsOn

variable {read : List Char → Option (α × List Char)}

theorem pure (a : α) : ReadsOn fun s => some (a, s) := by
  intro s b t rest hrest hread
  cases hread
  rfl

theorem map (h : ReadsOn read) (f : α → β) :
    ReadsOn fun s => (read s).map fun (a, s) => (f a, s) := by
  intro s b t rest hrest hread
  obtain ⟨⟨a, t'⟩, ha, heq⟩ := Option.map_eq_some_iff.mp hread
  cases heq
  change (read (s ++ rest)).map _ = _
  rw [h s a t rest hrest ha]
  rfl

theorem bind {next : α → List Char → Option (β × List Char)} (h : ReadsOn read)
    (hnext : ∀ a, ReadsOn (next a)) : ReadsOn fun s => (read s).bind fun (a, s) => next a s := by
  intro s b t rest hrest hread
  obtain ⟨⟨a, t'⟩, ha, hb⟩ := Option.bind_eq_some_iff.mp hread
  change (read (s ++ rest)).bind _ = _
  rw [h s a t' rest hrest ha]
  exact hnext a t' b t rest hrest hb

end ReadsOn

theorem readsOn_digits? : ReadsOn digits? := by
  intro s digits t rest hrest h
  have hspan : (s ++ rest).takeWhile Char.isDigit = s.takeWhile Char.isDigit ∧
      (s ++ rest).dropWhile Char.isDigit = s.dropWhile Char.isDigit ++ rest := by
    clear h
    induction s with
    | nil =>
      cases rest with
      | nil => exact ⟨rfl, rfl⟩
      | cons c rest => simp [(hrest c rfl).1]
    | cons c s ih =>
      by_cases hc : c.isDigit = true
      · simp [hc, ih]
      · simp [hc]
  simp only [digits?, hspan] at h ⊢
  split at h
  · cases h
  · next hne =>
    rw [if_neg hne]
    cases h
    rfl

theorem exponentSign_cons_append (c : Char) (s rest : List Char) :
    exponentSign (c :: s ++ rest)
      = ((exponentSign (c :: s)).1, (exponentSign (c :: s)).2 ++ rest) := by
  by_cases hminus : c = '-'
  · subst hminus
    rfl
  · by_cases hplus : c = '+'
    · subst hplus
      rfl
    · have hsign : ∀ s : List Char, exponentSign (c :: s) = (false, c :: s) := by
        intro s
        refine exponentSign.eq_3 _ ?_ ?_
        · rintro _ ⟨⟩
          exact hminus rfl
        · rintro _ ⟨⟩
          exact hplus rfl
      rw [List.cons_append, hsign, hsign]
      rfl

theorem readsOn_exponentPart? : ReadsOn exponentPart? := by
  intro s e t rest hrest h
  cases s with
  | nil => cases h
  | cons c s =>
    unfold exponentPart? at h ⊢
    rw [exponentSign_cons_append]
    exact readsOn_digits?.map (fun digits => if (exponentSign (c :: s)).1 = true
      then -(ofDigits digits : Int) else ofDigits digits) _ _ _ _ hrest h

/-- A text does not start with a character with which neither of its parts starts. -/
private theorem append_ne_cons {c : Char} {s rest : List Char} (hs : ∀ s', s = c :: s' → False)
    (hrest : ∀ s', rest = c :: s' → False) : ∀ s', s ++ rest = c :: s' → False := by
  intro s' h
  cases s with
  | nil => exact hrest s' h
  | cons d s =>
    cases h
    exact hs s rfl

theorem EndsNumber.ne_cons {s s' : List Char} {c : Char} (h : EndsNumber s)
    (hc : c.isDigit = true ∨ c = '.' ∨ c = 'e' ∨ c = 'E') : s ≠ c :: s' := by
  rintro rfl
  obtain ⟨hdigit, hpoint, he, hE⟩ := h c rfl
  simp [hdigit, hpoint, he, hE] at hc

theorem readsOn_fraction? : ReadsOn fraction? := by
  intro s fraction t rest hrest h
  unfold fraction? at h
  split at h
  case h_1 s => exact readsOn_digits?.map some _ _ _ _ hrest h
  case h_2 hpoint =>
    cases h
    refine fraction?.eq_2 _ (append_ne_cons hpoint fun s' => ?_)
    exact hrest.ne_cons (by simp)

theorem readsOn_exponent? : ReadsOn exponent? := by
  intro s exponent t rest hrest h
  unfold exponent? at h
  split at h
  case h_1 s => exact readsOn_exponentPart?.map some _ _ _ _ hrest h
  case h_2 s => exact readsOn_exponentPart?.map some _ _ _ _ hrest h
  case h_3 he hE =>
    cases h
    refine exponent?.eq_3 _ (append_ne_cons he fun s' => ?_) (append_ne_cons hE fun s' => ?_)
    · exact hrest.ne_cons (by simp)
    · exact hrest.ne_cons (by simp)

theorem readsOn_numberTail? (isNegative : Bool) (whole : List Char) :
    ReadsOn (numberTail? isNegative whole) :=
  readsOn_fraction?.bind fun fraction =>
    readsOn_exponent?.bind fun exponent => ReadsOn.pure (ofParts isNegative whole fraction exponent)

theorem readsOn_unsigned? (isNegative : Bool) : ReadsOn (unsigned? isNegative) := by
  intro s j t rest hrest h
  unfold unsigned? at h
  split at h
  case h_1 s =>
    split at h
    · cases h
    · next hdigit =>
      -- what follows a lone zero is no digit either
      have hdigit' : ¬ (s ++ rest).head?.any Char.isDigit = true := by
        cases s with
        | nil =>
          cases rest with
          | nil => exact hdigit
          | cons c rest => simp [(hrest c rfl).1]
        | cons c s => exact hdigit
      rw [List.cons_append, unsigned?, if_neg hdigit']
      exact readsOn_numberTail? _ _ _ _ _ _ hrest h
  case h_2 hzero =>
    rw [unsigned?.eq_2 _ _ (append_ne_cons hzero fun s' => hrest.ne_cons (by simp))]
    exact readsOn_digits?.bind (readsOn_numberTail? isNegative) _ _ _ _ hrest h

/-- **A number is read alone as in a longer text.** -/
theorem readsOn_number? : ReadsOn number? := by
  intro s j t rest hrest h
  cases s with
  | nil => cases h
  | cons c s =>
    by_cases hminus : c = '-'
    · subst hminus
      exact readsOn_unsigned? true _ _ _ _ hrest h
    · have hnumber : ∀ s : List Char, number? (c :: s) = unsigned? false (c :: s) := by
        intro s
        refine number?.eq_2 _ ?_
        rintro _ ⟨⟩
        exact hminus rfl
      rw [hnumber] at h
      rw [List.cons_append, hnumber]
      exact readsOn_unsigned? false _ _ _ _ hrest h

/-- A number starts with a digit or a minus sign. -/
theorem head_of_number? {s t : List Char} {j : Json} (h : number? s = some (j, t)) :
    ∃ c s', s = c :: s' ∧ (c = '-' ∨ c.isDigit = true) := by
  cases s with
  | nil => cases h
  | cons c s =>
    refine ⟨c, s, rfl, ?_⟩
    by_cases hminus : c = '-'
    · exact Or.inl hminus
    · by_cases hdigit : c.isDigit = true
      · exact Or.inr hdigit
      · have hzero : c ≠ '0' := by
          rintro rfl
          exact hdigit rfl
        simp [number?, hminus, unsigned?, hzero, digits?, hdigit] at h

/-! ### Integers -/

/-- The decimal digits of a number write it. -/
theorem ofDigits_toDigits (n : Nat) : ofDigits (Nat.toDigits 10 n) = n := by
  have h := Nat.ofDigitChars_ten_toDigits (n := n)
  rwa [Nat.ofDigitChars_eq_foldl] at h

/-- Only zero is written with a zero in front. -/
theorem eq_zero_of_toDigits {n : Nat} {s : List Char} (h : Nat.toDigits 10 n = '0' :: s) :
    n = 0 := by
  -- the first digit is that of the number without its last digit
  induction n using Nat.strongRecOn generalizing s with
  | ind n ih =>
    by_cases hn : n < 10
    · rw [Nat.toDigits_of_lt_base hn] at h
      have hall : ∀ m < 10, m.digitChar = '0' → m = 0 := by decide
      exact hall n hn (List.cons.inj h).1
    · rw [Nat.toDigits_of_base_le (by decide) (Nat.le_of_not_lt hn)] at h
      cases hq : Nat.toDigits 10 (n / 10) with
      | nil => exact absurd hq Nat.toDigits_ne_nil
      | cons c s' =>
        rw [hq, List.cons_append] at h
        obtain ⟨rfl, -⟩ := List.cons.inj h
        have hzero := ih (n / 10) (by omega) hq
        omega

theorem digits?_toDigits (n : Nat) :
    digits? (Nat.toDigits 10 n) = some (Nat.toDigits 10 n, []) := by
  have hall : ∀ c ∈ Nat.toDigits 10 n, c.isDigit = true := fun c hc =>
    Nat.isDigit_of_mem_toDigits (by decide) (by decide) hc
  have hne : (Nat.toDigits 10 n).isEmpty = false := by
    rw [List.isEmpty_eq_false_iff]
    exact Nat.toDigits_ne_nil
  rw [digits?, List.takeWhile_eq_self_iff.mpr hall, List.dropWhile_eq_nil_iff.mpr hall, hne]
  rfl

theorem unsigned?_toDigits (isNegative : Bool) (n : Nat) :
    unsigned? isNegative (Nat.toDigits 10 n)
      = some (ofParts isNegative (Nat.toDigits 10 n) none none, []) := by
  by_cases hn : n = 0
  · subst hn
    rfl
  · rw [unsigned?.eq_2 _ _ fun s h => hn (eq_zero_of_toDigits h), digits?_toDigits]
    rfl

/-- **An integer of 64 bits reads back.** -/
theorem number?_toString {i : Int} (hlow : -2 ^ 63 ≤ i) (hhigh : i < 2 ^ 64) :
    number? (toString i).toList = some (.integer i, []) := by
  cases i with
  | ofNat n =>
    have htext : (toString (Int.ofNat n)).toList = Nat.toDigits 10 n := by
      change (toString n).toList = _
      rw [Nat.toString_eq_ofList_toDigits, String.toList_ofList]
    have hhead : ∀ s, Nat.toDigits 10 n = '-' :: s → False := by
      intro s h
      have hdigit : '-'.isDigit = true :=
        Nat.isDigit_of_mem_toDigits (b := 10) (n := n) (by decide) (by decide) (by simp [h])
      exact absurd hdigit (by decide)
    have hfits : n < UInt64.size := by
      have h64 : (n : Int) < 2 ^ 64 := hhigh
      simp only [UInt64.size]
      omega
    rw [htext, number?.eq_2 _ hhead, unsigned?_toDigits, ofParts, ofDigits_toDigits]
    simp [hfits]
  | negSucc n =>
    have htext : (toString (Int.negSucc n)).toList = '-' :: Nat.toDigits 10 (n + 1) := by
      change ("-" ++ toString (n + 1)).toList = _
      rw [Nat.toString_eq_ofList_toDigits, String.toList_append, String.toList_ofList,
        String.toList_ofList]
      rfl
    have hfits : n + 1 ≤ Nat.pow 2 63 := by
      change n + 1 ≤ 2 ^ 63
      omega
    rw [htext, number?, unsigned?_toDigits, ofParts, ofDigits_toDigits]
    simp only [Option.isNone_none, hfits, if_true, Nat.succ_pos, and_true]
    rfl

/-! ### Doubles -/

/-- A double whose text reads back. -/
def ReadsBack (x : Float) : Prop :=
  number? (numberStyle.render x).toList = some (.number x, [])

end CircuitDispatch.Json
