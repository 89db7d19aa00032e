import Mathlib.Data.List.Basic
import Mathlib.Tactic.SplitIfs

/-!
# The bytes of a text

Texts are ordered by their characters, and their bytes in UTF-8 are in the same order
(`lt_iff_bytes_lt`). For two characters this is seen in the first of their bytes that differ
(`utf8EncodeChar_append_lt`): the first byte tells how many there are, and the bits of the character
are spread over them from the highest on.
-/

namespace CircuitDispatch.Text

/-- The bytes of a text. -/
def bytes (s : String) : List UInt8 := s.toUTF8.data.toList

theorem bytes_eq (s : String) : bytes s = s.toList.flatMap String.utf8EncodeChar := by
  conv_lhs => rw [← String.ofList_toList (s := s)]
  rw [bytes, String.toUTF8_eq_toByteArray, String.toByteArray_ofList, List.utf8Encode,
    List.toList_data_toByteArray]

/-- Numbers are compared by what is left of three digits of six bits, and then by the digits. -/
private theorem digits_lt {m n : Nat} (h : m < n) :
    m / 262144 < n / 262144 ∨ m / 262144 = n / 262144 ∧
      (m / 4096 % 64 < n / 4096 % 64 ∨ m / 4096 % 64 = n / 4096 % 64 ∧
        (m / 64 % 64 < n / 64 % 64 ∨ m / 64 % 64 = n / 64 % 64 ∧ m % 64 < n % 64)) := by
  omega

/-- **Characters are in the order of their bytes**, whatever follows them. -/
theorem utf8EncodeChar_append_lt {c d : Char} (h : c < d) (s t : List UInt8) :
    String.utf8EncodeChar c ++ s < String.utf8EncodeChar d ++ t := by
  have hval : c.val.toNat < d.val.toNat := h
  have hd : d.val.toNat < 1114112 := by
    rcases d.valid with hlow | hhigh
    · exact Nat.lt_trans hlow (by decide)
    · exact hhigh.2
  have hc : c.val.toNat < 1114112 := Nat.lt_trans hval hd
  have hdigits := digits_lt hval
  -- no byte overflows
  have hlast : ∀ k, (k % 64 + 128) % 256 = k % 64 + 128 := fun k => by omega
  have hfirst : ∀ k < 1114112, (k / 262144 % 8 + 240) % 256 = k / 262144 + 240 := fun k hk => by
    omega
  unfold String.utf8EncodeChar
  dsimp only
  -- one case for each pair of numbers of bytes
  split_ifs
  all_goals
    simp only [List.cons_append, List.nil_append, List.cons_lt_cons_iff, UInt8.lt_iff_toNat_lt,
      ← UInt8.toNat_inj, UInt8.toNat_ofNat', hlast, hfirst _ hc, hfirst _ hd]
    omega

theorem flatMap_utf8EncodeChar_lt {l m : List Char} (h : l < m) :
    l.flatMap String.utf8EncodeChar < m.flatMap String.utf8EncodeChar := by
  induction l generalizing m with
  | nil =>
    cases m with
    | nil => exact absurd h (List.not_lt_nil _)
    | cons d m =>
      obtain ⟨first, rest, hbytes⟩ :=
        List.exists_cons_of_ne_nil (String.utf8EncodeChar_ne_nil (c := d))
      rw [List.flatMap_cons, hbytes]
      exact List.nil_lt_cons _ _
  | cons c l ih =>
    cases m with
    | nil => exact absurd h (List.not_lt_nil _)
    | cons d m =>
      rw [List.flatMap_cons, List.flatMap_cons]
      rcases List.cons_lt_cons_iff.mp h with hlt | ⟨rfl, hrest⟩
      · exact utf8EncodeChar_append_lt hlt _ _
      · exact List.append_left_lt (ih hrest)

theorem lt_iff_compare {a b : String} : a < b ↔ compare a b = .lt :=
  compareOfLessAndEq_eq_lt.symm

/-- **Texts are in the order of their bytes.** -/
theorem lt_iff_bytes_lt {a b : String} : a < b ↔ bytes a < bytes b := by
  have hforward : ∀ {a b : String}, a < b → bytes a < bytes b := by
    intro a b h
    rw [bytes_eq, bytes_eq]
    exact flatMap_utf8EncodeChar_lt (String.lt_iff.mp h)
  refine ⟨hforward, fun h => ?_⟩
  cases hcompare : compare a b with
  | lt => exact lt_iff_compare.mpr hcompare
  | eq =>
    rw [Std.LawfulEqOrd.eq_of_compare hcompare] at h
    exact absurd h (List.lt_irrefl _)
  | gt =>
    have hreverse := hforward (lt_iff_compare.mpr (Std.OrientedCmp.lt_of_gt hcompare))
    exact absurd hreverse (List.lt_asymm h)

end CircuitDispatch.Text
