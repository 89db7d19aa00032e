import Mathlib.Algebra.BigOperators.Group.List.Basic
import Mathlib.Algebra.GroupWithZero.Nat
import CircuitDispatch.Cloud.Result
import CircuitDispatch.Proofs.SortedMap
import CircuitDispatch.Proofs.Text.Bytes

/-!
# Rows of counted strings

A result without rows says how often each string of bits was measured, and is expanded: a string has
as many rows as it was counted, and they stand behind those of the lesser strings.
`TaskResult.Expands` says what rows are an expansion of counts, with strings read and compared byte
by byte (`TaskResult.rowOfBytes`) and in terms of how often the strings that pass a test were
counted (`TaskResult.counted`).

Counts that are listed in any order are sorted before they are expanded
(`TaskResult.expandListed`), so the order of the list does not show (`expandListed_eq`). The main
statement is `samples_expand`.
-/

namespace CircuitDispatch.TaskResult

variable {counts : SortedMap String Nat} {bits : String} {n : Nat}

/-! ### Strings byte by byte -/

/-- The bit that a byte of a string stands for. -/
def bitOfByte (byte : UInt8) : UInt8 := if byte = '1'.toUInt8 then 1 else 0

/-- The row of a string that is read byte by byte. -/
def rowOfBytes (bits : String) : List UInt8 := (Text.bytes bits).map bitOfByte

theorem bitOfByte_ofNat {b : Nat} (hbyte : b < 256) (hne : b ≠ 49) :
    bitOfByte (UInt8.ofNat b) = 0 := by
  refine if_neg fun h => hne ?_
  have hnat : b % 256 = 49 := congrArg UInt8.toNat h
  rwa [Nat.mod_eq_of_lt hbyte] at hnat

/-- Only the character `1` has a byte that stands for a one: the bytes of a character that has
several of them are all from 128 on. -/
theorem bitOfByte_of_mem_utf8EncodeChar {c : Char} (h : c ≠ '1') :
    ∀ byte ∈ String.utf8EncodeChar c, bitOfByte byte = 0 := by
  have hval : c.val.toNat ≠ 49 := fun heq => h (Char.ext (UInt32.toNat_inj.mp heq))
  have hlast : ∀ m, bitOfByte (UInt8.ofNat (m % 64 + 128)) = 0 := fun m =>
    bitOfByte_ofNat (by omega) (by omega)
  unfold String.utf8EncodeChar
  dsimp only
  split_ifs
  · exact List.forall_mem_singleton.mpr (bitOfByte_ofNat (by omega) hval)
  all_goals
    -- the first byte is from 192 on
    refine List.forall_mem_cons.mpr ⟨bitOfByte_ofNat (by omega) (by omega), ?_⟩
    simp only [List.forall_mem_cons, hlast, true_and]
    exact List.forall_mem_nil _

theorem map_bitOfByte_utf8EncodeChar (c : Char) :
    (String.utf8EncodeChar c).map bitOfByte
      = if c = '1' then [1] else List.replicate c.utf8Size 0 := by
  split
  case isTrue h => rw [h]; rfl
  case isFalse h =>
    rw [← String.length_utf8EncodeChar, ← List.map_const']
    exact List.map_congr_left (bitOfByte_of_mem_utf8EncodeChar h)

/-- **Rows are read byte by byte.** -/
theorem row_eq_rowOfBytes (bits : String) : row bits = rowOfBytes bits := by
  rw [rowOfBytes, Text.bytes_eq, List.map_flatMap, row]
  simp only [map_bitOfByte_utf8EncodeChar]

/-! ### How often strings were counted -/

/-- How often the strings that pass a test were counted, all together. -/
def counted (counts : SortedMap String Nat) (test : String → Bool) : Nat :=
  ((counts.entries.filter fun e => test e.1).map (·.2)).sum

/-- Rows that are an expansion of counts. -/
structure Expands (counts : SortedMap String Nat) (rows : List (List UInt8)) : Prop where
  /-- There is a row for every time that some string was counted. -/
  length_eq : rows.length = counted counts fun _ => true
  /-- A row is there as often as the strings were counted that are read as this row. -/
  count_eq : ∀ row, rows.count row = counted counts fun bits => rowOfBytes bits = row
  /-- The rows of a string stand together, behind those of the lesser strings and before those of
  the greater ones. -/
  block : ∀ bits n, counts.get? bits = some n → ∃ before after,
    rows = before ++ List.replicate n (rowOfBytes bits) ++ after ∧
      (before.length = counted counts fun other => Text.bytes other < Text.bytes bits) ∧
      after.length = counted counts fun other => Text.bytes bits < Text.bytes other
  /-- The rows of strings of zeros and ones do not decrease. -/
  sorted : (∀ bits ∈ counts.keys, ∀ c ∈ bits.toList, c = '0' ∨ c = '1') → rows.Pairwise (· ≤ ·)

/-- The rows of entries in their order. -/
def rowsOf (entries : List (String × Nat)) : List (List UInt8) :=
  entries.flatMap fun (bits, n) => List.replicate n (row bits)

theorem rowsOf_entries (counts : SortedMap String Nat) :
    rowsOf counts.entries = expand counts := rfl

theorem rowsOf_append_cons (before after : List (String × Nat)) :
    rowsOf (before ++ (bits, n) :: after)
      = rowsOf before ++ List.replicate n (row bits) ++ rowsOf after := by
  rw [rowsOf, List.flatMap_append, List.flatMap_cons, ← List.append_assoc]
  rfl

theorem length_rowsOf (entries : List (String × Nat)) :
    (rowsOf entries).length = (entries.map (·.2)).sum := by
  simp [rowsOf, List.length_flatMap]

theorem count_rowsOf (entries : List (String × Nat)) (r : List UInt8) :
    (rowsOf entries).count r = ((entries.filter fun e => row e.1 = r).map (·.2)).sum := by
  induction entries with
  | nil => rfl
  | cons e entries ih =>
    have hcons : rowsOf (e :: entries) = List.replicate e.2 (row e.1) ++ rowsOf entries := rfl
    rw [hcons, List.count_append, List.count_replicate, ih, List.filter_cons]
    by_cases hrow : row e.1 = r
    · simp [hrow]
    · simp [hrow]

/-! ### The rows of one string -/

/-- A filter that lets one of two lists pass and nothing of the other. -/
private theorem filter_append_eq {α : Type} {test : α → Bool} {l r : List α}
    (hl : ∀ a ∈ l, test a = true) (hr : ∀ a ∈ r, test a = false) :
    (l ++ r).filter test = l ∧ (r ++ l).filter test = l := by
  have hnone : r.filter test = [] :=
    List.filter_eq_nil_iff.mpr fun a ha => Bool.eq_false_iff.mp (hr a ha)
  rw [List.filter_append, List.filter_append, List.filter_eq_self.mpr hl, hnone]
  exact ⟨List.append_nil l, rfl⟩

/-- The strings of the entries before an entry are the lesser ones, and those of the entries after
it the greater ones. -/
theorem filter_entries_eq {before after : List (String × Nat)}
    (h : counts.entries = before ++ (bits, n) :: after) :
    counts.entries.filter (fun e => e.1 < bits) = before ∧
      counts.entries.filter (fun e => bits < e.1) = after := by
  have hsorted := counts.sorted
  simp only [h, List.pairwise_append, List.pairwise_cons, ← Text.lt_iff_compare] at hsorted
  obtain ⟨-, ⟨hafter, -⟩, hbefore⟩ := hsorted
  have hlesser : ∀ e ∈ before, e.1 < bits := fun e he => hbefore e he _ List.mem_cons_self
  have hself : decide (bits < bits) = false := decide_eq_false (String.lt_irrefl bits)
  rw [h]
  constructor
  · refine (filter_append_eq (fun e he => decide_eq_true (hlesser e he)) ?_).1
    exact List.forall_mem_cons.mpr
      ⟨hself, fun e he => decide_eq_false (String.lt_asymm (hafter e he))⟩
  · rw [List.append_cons]
    refine (filter_append_eq (fun e he => decide_eq_true (hafter e he)) ?_).2
    exact List.forall_mem_append.mpr
      ⟨fun e he => decide_eq_false (String.lt_asymm (hlesser e he)),
        List.forall_mem_singleton.mpr hself⟩

/-- **The rows of a string stand together.** -/
theorem exists_block (h : counts.get? bits = some n) : ∃ before after,
    expand counts = before ++ List.replicate n (row bits) ++ after ∧
      (before.length = counted counts fun other => other < bits) ∧
      after.length = counted counts fun other => bits < other := by
  obtain ⟨before, after, hentries⟩ := List.append_of_mem (SortedMap.get?_eq_some_iff.mp h)
  obtain ⟨hbefore, hafter⟩ := filter_entries_eq hentries
  refine ⟨rowsOf before, rowsOf after, ?_, ?_, ?_⟩
  · rw [← rowsOf_entries, hentries, rowsOf_append_cons]
  · rw [length_rowsOf, counted, hbefore]
  · rw [length_rowsOf, counted, hafter]

/-! ### Strings of zeros and ones -/

/-- The row of a string of zeros and ones. -/
theorem row_eq_map_digit (h : ∀ c ∈ bits.toList, c = '0' ∨ c = '1') :
    row bits = bits.toList.map fun c => if c = '1' then 1 else 0 := by
  rw [row, List.map_eq_flatMap]
  refine List.flatMap_congr fun c hc => ?_
  rcases h c hc with rfl | rfl
  · rfl
  · rfl

theorem map_digit_le {l m : List Char} (hl : ∀ c ∈ l, c = '0' ∨ c = '1')
    (hm : ∀ c ∈ m, c = '0' ∨ c = '1') (h : l < m) :
    (l.map fun c => if c = '1' then (1 : UInt8) else 0)
      ≤ m.map fun c => if c = '1' then 1 else 0 := by
  induction l generalizing m with
  | nil => exact List.nil_le _
  | cons c l ih =>
    cases m with
    | nil => exact absurd h (List.not_lt_nil _)
    | cons d m =>
      rw [List.forall_mem_cons] at hl hm
      rw [List.map_cons, List.map_cons, List.cons_le_cons_iff]
      rcases List.cons_lt_cons_iff.mp h with hlt | ⟨rfl, hrest⟩
      · -- the only two digits of which one is less than the other
        rcases hl.1 with rfl | rfl
        · rcases hm.1 with rfl | rfl
          · exact absurd hlt (Char.lt_irrefl _)
          · exact .inl (by decide)
        · rcases hm.1 with rfl | rfl
          · exact absurd hlt (by decide)
          · exact absurd hlt (Char.lt_irrefl _)
      · exact .inr ⟨rfl, ih hl.2 hm.2 hrest⟩

/-- **The rows of strings of zeros and ones** do not decrease. -/
theorem pairwise_expand (h : ∀ bits ∈ counts.keys, ∀ c ∈ bits.toList, c = '0' ∨ c = '1') :
    (expand counts).Pairwise (· ≤ ·) := by
  rw [expand, List.pairwise_flatMap]
  constructor
  · -- rows of one string are equal
    intro e _
    exact List.pairwise_replicate.mpr (.inr (List.le_refl _))
  · refine List.Pairwise.imp_of_mem ?_ counts.sorted
    intro e f he hf hlt r hr s hs
    rw [(List.mem_replicate.mp hr).2, (List.mem_replicate.mp hs).2]
    have hdigits := h e.1 (List.mem_map_of_mem he)
    have hdigits' := h f.1 (List.mem_map_of_mem hf)
    rw [row_eq_map_digit hdigits, row_eq_map_digit hdigits']
    exact map_digit_le hdigits hdigits' (String.lt_iff.mp (Text.lt_iff_compare.mpr hlt))

/-- **Counts are expanded.** -/
theorem expands_expand (counts : SortedMap String Nat) : Expands counts (expand counts) where
  length_eq := by
    rw [← rowsOf_entries, length_rowsOf, counted, List.filter_true]
  count_eq r := by
    simp only [← rowsOf_entries, count_rowsOf, counted, row_eq_rowOfBytes]
  block bits n h := by
    simp only [← Text.lt_iff_bytes_lt, ← row_eq_rowOfBytes]
    exact exists_block h
  sorted := pairwise_expand

/-! ### Counts in any order -/

/-- Listed counts are compared by the strings, and then by the numbers. -/
def compareListed : String × Nat → String × Nat → Ordering :=
  compareLex (compareOn Prod.fst) (compareOn Prod.snd)

/-- The rows of counts that are listed in any order: they are sorted first. -/
def expandListed (listed : List (String × Nat)) : List (List UInt8) :=
  rowsOf (listed.mergeSort fun a b => (compareListed a b).isLE)

/-- **The order in which counts are listed does not show.** -/
theorem expandListed_eq {listed : List (String × Nat)} (h : listed.Perm counts.entries) :
    expandListed listed = expand counts := by
  have : Std.TransCmp compareListed :=
    inferInstanceAs (Std.TransCmp (compareLex (compareOn Prod.fst) (compareOn Prod.snd)))
  have hperm := (List.mergeSort_perm listed fun a b => (compareListed a b).isLE).trans h
  -- both lists are sorted, so they are the same
  have hantisymm : ∀ a b : String × Nat, (compareListed a b).isLE = true →
      (compareListed b a).isLE = true → a = b := by
    intro a b hab hba
    have heq : compareListed a b = .eq := Std.OrientedCmp.isLE_antisymm hab hba
    obtain ⟨hfst, hsnd⟩ := Ordering.then_eq_eq.mp heq
    exact Prod.ext (Std.LawfulEqOrd.eq_of_compare hfst) (Std.LawfulEqOrd.eq_of_compare hsnd)
  refine congrArg rowsOf (hperm.eq_of_pairwise (fun a b _ _ => hantisymm a b) ?_ ?_)
  · refine List.pairwise_mergeSort (fun a b c => Std.TransCmp.isLE_trans) (fun a b => ?_) listed
    rw [Bool.or_eq_true, or_iff_not_imp_left]
    intro hgt
    rw [Std.OrientedCmp.lt_of_not_isLE hgt]
    rfl
  · refine counts.sorted.imp fun {a b} hlt => ?_
    simp [compareListed, compareLex, compareOn, hlt]

/-- **Results are expanded.** Measured rows are the samples as they are; without them the counts are
expanded, in whatever order they are listed. -/
theorem samples_expand (r : TaskResult) :
    (∀ rows, r.measurements = some rows → r.samples = .ok ⟨rows⟩) ∧
      ∀ counts, r.measurements = none → r.measurementCounts = some counts →
        ∃ rows, r.samples = .ok ⟨rows⟩ ∧ Expands counts rows ∧
          ∀ listed : List (String × Nat), listed.Perm counts.entries →
            expandListed listed = rows := by
  obtain ⟨measurementCounts, measurements, measuredQubits⟩ := r
  constructor
  · rintro rows rfl
    rfl
  · rintro counts rfl rfl
    exact ⟨expand counts, rfl, expands_expand counts, fun _ hperm => expandListed_eq hperm⟩

/-- Two strings that are read as the same row, and one that was never counted. -/
theorem samples_expand_collidingStrings :
    let listed := [("10", 1), ("é", 1), ("01", 2), ("1", 0), ("00", 2)]
    let counts : SortedMap String Nat := .ofList listed
    let rows : List (List UInt8) := [[0, 0], [0, 0], [0, 1], [0, 1], [1, 0], [0, 0]]
    (⟨some counts, none, none⟩ : TaskResult).samples = .ok ⟨rows⟩ ∧ Expands counts rows ∧
      expandListed listed = rows ∧
      (⟨some counts, some [[2]], none⟩ : TaskResult).samples = .ok ⟨[[2]]⟩ := by
  intro listed counts rows
  obtain ⟨found, hsamples, hexpands, hlisted⟩ :=
    (samples_expand ⟨some counts, none, none⟩).2 counts rfl rfl
  have hrows : (⟨some counts, none, none⟩ : TaskResult).samples = .ok ⟨rows⟩ := by decide +kernel
  obtain rfl : rows = found := by
    rw [hrows] at hsamples
    exact Samples.mk.inj (Except.ok.inj hsamples)
  exact ⟨hrows, hexpands, hlisted listed (by decide +kernel),
    (samples_expand ⟨some counts, some [[2]], none⟩).1 _ rfl⟩

end CircuitDispatch.TaskResult
