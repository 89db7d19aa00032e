import CircuitDispatch.Proofs.Json.Numbers

/-!
# Strings in JSON texts

A string is written character by character. Each written character is read as one piece
(`pieces?_escape`), an escaped control character as a code unit and any other as itself, and the
pieces make the characters again (`ofPieces?_map_ofChar`). So a quoted string is read as the string,
whatever follows the closing quote (`string?_quote`).
-/

namespace CircuitDispatch.Json

/-! ### Pieces of a string -/

/-- Puts a piece before those that were read. -/
def Piece.before (piece : Piece) : List Piece × List Char → List Piece × List Char
  | (pieces, rest) => (piece :: pieces, rest)

theorem pieces?_char (fuel : Nat) {c : Char} (s : List Char) (hquote : c ≠ '"')
    (hslash : c ≠ '\\') (hcontrol : ¬ c.toNat < 0x20) :
    pieces? (fuel + 1) (c :: s) = (pieces? fuel s).map (Piece.char c).before := by
  simp only [pieces?, hquote, hcontrol, hslash, if_false, Option.map_eq_bind]
  rfl

theorem pieces?_shortEscape (fuel : Nat) {e c : Char} (s : List Char) (hcode : e ≠ 'u')
    (he : escaped? e = some c) :
    pieces? (fuel + 1) ('\\' :: e :: s) = (pieces? fuel s).map (Piece.char c).before := by
  rw [pieces?, if_neg (by decide), if_neg (by decide), if_pos rfl]
  simp only [if_neg hcode, he, Option.map_eq_bind]
  rfl

theorem hexValue?_hexDigit : ∀ n < 16, hexValue? (hexDigit n) = some n := by decide

theorem pieces?_codeEscape (fuel : Nat) {n : Nat} (s : List Char) (hn : n < 0x20) :
    pieces? (fuel + 1) ('\\' :: 'u' :: '0' :: '0' :: hexDigit (n / 16) :: hexDigit (n % 16) :: s)
      = (pieces? fuel s).map (Piece.unit n).before := by
  have hzero : hexValue? '0' = some 0 := rfl
  have hunit : codeUnit? ('0' :: '0' :: hexDigit (n / 16) :: hexDigit (n % 16) :: s)
      = some (n, s) := by
    simp only [codeUnit?, hzero, hexValue?_hexDigit (n / 16) (by omega),
      hexValue?_hexDigit (n % 16) (by omega), Option.bind_eq_bind, Option.bind_some]
    congr 2
    omega
  rw [pieces?, if_neg (by decide), if_neg (by decide), if_pos rfl]
  simp only [if_true, hunit, Option.map_eq_bind]
  rfl

/-- What a character of a string is read as: itself, or its code where it has no short escape. -/
def Piece.ofChar (c : Char) : Piece :=
  if c.toNat < 0x20 ∧ c ∉ ['\n', '\r', '\t', '\x08', '\x0c'] then .unit c.toNat else .char c

/-- The characters that are written with a letter or a sign after a backslash. -/
theorem escape_short {c : Char} (hc : c ∈ ['"', '\\', '\n', '\r', '\t', '\x08', '\x0c']) :
    ∃ e, e ≠ 'u' ∧ escaped? e = some c ∧ escape c = ['\\', e] ∧ Piece.ofChar c = .char c := by
  simp only [List.mem_cons, List.not_mem_nil, or_false] at hc
  rcases hc with rfl | rfl | rfl | rfl | rfl | rfl | rfl
  · exact ⟨'"', by decide, rfl, rfl, rfl⟩
  · exact ⟨'\\', by decide, rfl, rfl, rfl⟩
  · exact ⟨'n', by decide, rfl, rfl, rfl⟩
  · exact ⟨'r', by decide, rfl, rfl, rfl⟩
  · exact ⟨'t', by decide, rfl, rfl, rfl⟩
  · exact ⟨'b', by decide, rfl, rfl, rfl⟩
  · exact ⟨'f', by decide, rfl, rfl, rfl⟩

/-- **A written character** is read as one piece. -/
theorem pieces?_escape (fuel : Nat) (c : Char) (s : List Char) :
    pieces? (fuel + 1) (escape c ++ s) = (pieces? fuel s).map (Piece.ofChar c).before := by
  by_cases hshort : c ∈ ['"', '\\', '\n', '\r', '\t', '\x08', '\x0c']
  · obtain ⟨e, hcode, he, hescape, hpiece⟩ := escape_short hshort
    rw [hescape, hpiece]
    exact pieces?_shortEscape fuel s hcode he
  · simp only [List.mem_cons, List.not_mem_nil, or_false, not_or] at hshort
    obtain ⟨hquote, hslash, hn, hr, ht, hb, hf⟩ := hshort
    by_cases hcontrol : c.toNat < 0x20
    · have hpiece : Piece.ofChar c = .unit c.toNat := by
        simp [Piece.ofChar, hcontrol, hn, hr, ht, hb, hf]
      simp only [escape, hquote, hslash, hn, hr, ht, hb, hf, hcontrol, if_true, if_false, hpiece]
      exact pieces?_codeEscape fuel s hcontrol
    · have hpiece : Piece.ofChar c = .char c := by simp [Piece.ofChar, hcontrol]
      simp only [escape, hquote, hslash, hn, hr, ht, hb, hf, hcontrol, if_false, hpiece]
      exact pieces?_char fuel s hquote hslash hcontrol

theorem pieces?_flatMap_escape {fuel : Nat} {s : List Char} (hfuel : s.length < fuel)
    (rest : List Char) :
    pieces? fuel (s.flatMap escape ++ '"' :: rest) = some (s.map Piece.ofChar, rest) := by
  induction s generalizing fuel with
  | nil =>
    obtain ⟨fuel, rfl⟩ := Nat.exists_eq_add_one_of_ne_zero (Nat.ne_of_gt hfuel)
    rfl
  | cons c s ih =>
    obtain ⟨fuel, rfl⟩ := Nat.exists_eq_add_one_of_ne_zero (Nat.ne_zero_of_lt hfuel)
    rw [List.flatMap_cons, List.append_assoc, pieces?_escape, ih (Nat.lt_of_succ_lt_succ hfuel)]
    rfl

/-- The code of a control character is no half of a pair. -/
theorem ofPieces?_unit {n : Nat} (hn : n < 0x20) (pieces : List Piece) :
    ofPieces? (.unit n :: pieces) = (ofPieces? pieces).map (Char.ofNat n :: ·) := by
  have hhigh : ¬ (0xD800 ≤ n ∧ n < 0xDC00) := by omega
  have hlow : ¬ (0xDC00 ≤ n ∧ n < 0xE000) := by omega
  have hhalf : ¬ (0xD800 ≤ n ∧ n < 0xE000) := by omega
  cases pieces with
  | nil => simp only [ofPieces?, hhalf, if_false]
  | cons piece pieces =>
    cases piece with
    | char c => simp only [ofPieces?, hhalf, if_false]
    | unit low => simp only [ofPieces?, hhigh, hlow, if_false]

/-- The pieces of a string make the string. -/
theorem ofPieces?_map_ofChar (s : List Char) : ofPieces? (s.map Piece.ofChar) = some s := by
  induction s with
  | nil => rfl
  | cons c s ih =>
    rw [List.map_cons]
    by_cases hcode : c.toNat < 0x20 ∧ c ∉ ['\n', '\r', '\t', '\x08', '\x0c']
    · rw [Piece.ofChar, if_pos hcode, ofPieces?_unit hcode.1, ih, Char.ofNat_toNat]
      rfl
    · rw [Piece.ofChar, if_neg hcode, ofPieces?, ih]
      rfl

theorem length_le_flatMap_escape (s : List Char) : s.length ≤ (s.flatMap escape).length := by
  have hescape : ∀ c, 1 ≤ (escape c).length := by
    intro c
    unfold escape
    repeat' split
    all_goals simp
  rw [List.length_flatMap]
  induction s with
  | nil => exact Nat.le_refl 0
  | cons c s ih =>
    rw [List.map_cons, List.sum_cons, List.length_cons]
    have hc := hescape c
    omega

theorem toList_quote (s : String) :
    (quote s).toList = '"' :: (s.toList.flatMap escape ++ ['"']) := by
  simp only [quote, String.toList_append, String.toList_ofList, List.append_assoc]
  rfl

/-- **A string reads back.** -/
theorem string?_quote {fuel : Nat} {s : String} (hfuel : s.toList.length < fuel)
    (rest : List Char) :
    string? fuel (s.toList.flatMap escape ++ '"' :: rest) = some (some s, rest) := by
  rw [string?, pieces?_flatMap_escape hfuel]
  simp only [Option.bind_eq_bind, Option.bind_some, ofPieces?_map_ofChar, Option.map_some,
    String.ofList_toList]

end CircuitDispatch.Json
