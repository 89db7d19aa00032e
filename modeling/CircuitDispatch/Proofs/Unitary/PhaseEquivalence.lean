import CircuitDispatch.Proofs.Unitary.Unitarity
import CircuitDispatch.Unitary.Equivalence

/-!
# What the comparison up to a phase decides

Over the real numbers, where a size is a modulus (`size_eq_norm`), the comparison of two matrices is
right up to its tolerance (`equivalentUpToPhase_withinTolerance`).

The factor is read off one entry, and nothing says that it is a phase: its modulus may be off by the
tolerance. Divided by its modulus it is one, and by this it moves (`exists_isPhase_near`). An entry
of a unitary matrix has modulus at most one (`size_entry_le_one`), so no entry moves by more than the
factor does, and twice the tolerance is enough for all of them. In the other direction, the entry
that is chosen is as great as any (`le_size_of_pivot?`): if some entry reaches the tolerance, so does
this one, and the quotient there is the phase itself.
-/

namespace CircuitDispatch

/-- Sizes and comparisons of real numbers are exact. -/
noncomputable instance : Measured ℝ where
  abs x := |x|
  hypot x y := Real.sqrt (x * x + y * y)
  less x y := @decide (x < y) (Classical.propDecidable _)

/-! ### Amplitudes as complex numbers -/

namespace Amplitude

/-- An amplitude over the real numbers as a complex number. -/
def toComplex : Amplitude ℝ →+* ℂ where
  toFun a := ⟨a.re, a.im⟩
  map_one' := Complex.ext one_re one_im
  map_zero' := Complex.ext zero_re zero_im
  map_add' _ _ := rfl
  map_mul' _ _ := rfl

theorem toComplex_injective : Function.Injective toComplex := by
  intro a b h
  exact Amplitude.ext (congrArg Complex.re h) (congrArg Complex.im h)

theorem toComplex_star (a : Amplitude ℝ) : toComplex (star a) = star (toComplex a) := rfl

theorem toComplex_div (a b : Amplitude ℝ) : toComplex (a / b) = toComplex a / toComplex b := by
  refine Complex.ext ?_ ?_
  · rw [Complex.div_re, ← add_div]
    rfl
  · rw [Complex.div_im, ← sub_div]
    rfl

end Amplitude

namespace Unitary

open Amplitude

variable {n : Nat}

theorem size_eq_norm (a : Amplitude ℝ) : size a = ‖toComplex a‖ := rfl

theorem size_nonneg (a : Amplitude ℝ) : 0 ≤ size a := norm_nonneg (toComplex a)

theorem size_mul (a b : Amplitude ℝ) : size (a * b) = size a * size b := by
  rw [size_eq_norm, map_mul, norm_mul]
  rfl

theorem size_add_le (a b : Amplitude ℝ) : size (a + b) ≤ size a + size b := by
  rw [size_eq_norm, map_add]
  exact norm_add_le (toComplex a) (toComplex b)

@[simp] theorem size_zero : size (0 : Amplitude ℝ) = 0 := by
  rw [size_eq_norm, map_zero, norm_zero]

/-- A real number as an amplitude. -/
theorem size_ofReal (s : ℝ) : size (ofReal s) = |s| := by
  have hcomplex : toComplex (ofReal s) = s := Complex.ext rfl ExactScalar.ofNat_zero
  rw [size_eq_norm, hcomplex, Complex.norm_real, Real.norm_eq_abs]

theorem isPhase_iff_size {w : Amplitude ℝ} : w.IsPhase ↔ size w = 1 := by
  have hsize : size w = Real.sqrt w.normSq := rfl
  rw [hsize, Real.sqrt_eq_one]
  rfl

/-- **The phase next to a factor** is as far from it as its modulus is from one. -/
theorem exists_isPhase_near {z : Amplitude ℝ} (hz : size z ≠ 0) :
    ∃ w : Amplitude ℝ, w.IsPhase ∧ size (w - z) = |size z - 1| := by
  have hinv : (0 : ℝ) ≤ (size z)⁻¹ := inv_nonneg.mpr (size_nonneg z)
  have hdiff : ofReal (size z)⁻¹ * z - z = ofReal ((size z)⁻¹ - 1) * z := by
    have hreal : ofReal ((size z)⁻¹ - 1) = ofReal (size z)⁻¹ - (1 : Amplitude ℝ) := by
      refine Amplitude.ext ?_ ?_
      · show (size z)⁻¹ - 1 = (size z)⁻¹ - (1 : Amplitude ℝ).re
        rw [one_re]
      · show (Scalar.ofNat 0 : ℝ) = Scalar.ofNat 0 - (1 : Amplitude ℝ).im
        rw [one_im, sub_zero]
    rw [hreal, sub_mul, one_mul]
  refine ⟨ofReal (size z)⁻¹ * z, ?_, ?_⟩
  · rw [isPhase_iff_size, size_mul, size_ofReal, abs_of_nonneg hinv]
    exact inv_mul_cancel₀ hz
  · calc size (ofReal (size z)⁻¹ * z - z)
        = |(size z)⁻¹ - 1| * |size z| := by
          rw [hdiff, size_mul, size_ofReal, abs_of_nonneg (size_nonneg z)]
      _ = |((size z)⁻¹ - 1) * size z| := (abs_mul _ _).symm
      _ = |size z - 1| := by rw [sub_mul, inv_mul_cancel₀ hz, one_mul, abs_sub_comm]

/-- **Entries of a unitary matrix** have modulus at most one. -/
theorem size_entry_le_one {a : Matrix ℝ n} (ha : a.IsUnitary) (r c : Basis n) :
    size (a.entry r c) ≤ 1 := by
  -- the matrix over the complex numbers is unitary, too
  have hunitary : a.toOperator.map toComplex ∈ Matrix.unitaryGroup (Basis n) ℂ := by
    rw [Matrix.mem_unitaryGroup_iff, Matrix.star_eq_conjTranspose,
      ← Matrix.conjTranspose_map _ toComplex_star, ← Matrix.map_mul]
    have hone : a.toOperator * a.toOperator.conjTranspose = 1 := Matrix.mem_unitaryGroup_iff.mp ha
    rw [hone, Matrix.map_one _ (map_zero _) (map_one _)]
  exact entry_norm_bound_of_unitary hunitary r c

/-! ### The chosen entry -/

theorem less_eq_true_iff {x y : ℝ} : Measured.less x y = true ↔ x < y := by
  change @decide (x < y) (Classical.propDecidable _) = true ↔ x < y
  exact decide_eq_true_iff

/-- A fold that keeps the greater of two elements ends at one that is as great as any. -/
private theorem foldl_greatest {α : Type} (key : α → ℝ) {keep : α → α → α}
    (hmem : ∀ x y, keep x y = x ∨ keep x y = y)
    (hkeep : ∀ x y, key x ≤ key (keep x y) ∧ key y ≤ key (keep x y)) (l : List α) (start : α) :
    l.foldl keep start ∈ start :: l ∧ ∀ x ∈ start :: l, key x ≤ key (l.foldl keep start) := by
  -- by induction on the elements to come, for every one that is kept so far
  induction l generalizing start with
  | nil => simp
  | cons y l ih =>
    obtain ⟨hin, hgreatest⟩ := ih (keep start y)
    have hkept := hgreatest (keep start y) List.mem_cons_self
    rw [List.foldl_cons]
    refine ⟨?_, fun x hx => ?_⟩
    · rcases List.mem_cons.mp hin with heq | hin
      · rcases hmem start y with hstart | hy
        · rw [heq, hstart]
          exact List.mem_cons_self
        · rw [heq, hy]
          exact List.mem_cons_of_mem start List.mem_cons_self
      · exact List.mem_cons_of_mem start (List.mem_cons_of_mem y hin)
    · rcases List.mem_cons.mp hx with rfl | hx
      · exact (hkeep x y).1.trans hkept
      · rcases List.mem_cons.mp hx with rfl | hx
        · exact (hkeep start x).2.trans hkept
        · exact hgreatest x (List.mem_cons_of_mem _ hx)

theorem pivot?_eq_none_iff {pairs : List (Amplitude ℝ × Amplitude ℝ)} :
    pivot? pairs = none ↔ pairs = [] := by
  cases pairs with
  | nil => exact iff_of_true rfl rfl
  | cons p pairs => exact iff_of_false nofun nofun

/-- **The chosen pair** is one of the pairs, and none has a greater first part. -/
theorem le_size_of_pivot? {pairs : List (Amplitude ℝ × Amplitude ℝ)}
    {best : Amplitude ℝ × Amplitude ℝ} (h : pivot? pairs = some best) :
    best ∈ pairs ∧ ∀ p ∈ pairs, size p.1 ≤ size best.1 := by
  cases pairs with
  | nil => cases h
  | cons start pairs =>
    obtain rfl := Option.some.inj h
    refine foldl_greatest (fun p => size p.1) (fun p q => ?_) (fun p q => ?_) pairs start
    · split
      · exact .inl rfl
      · exact .inr rfl
    · split
      case isTrue hless => exact ⟨le_refl _, (less_eq_true_iff.mp hless).le⟩
      case isFalse hless =>
        rw [less_eq_true_iff, not_lt] at hless
        exact ⟨hless, le_refl _⟩

/-- All entries by their rows and columns. -/
private theorem toList_eq_map {α : Type} (a : Dense α n) :
    a.toList = (List.product (List.finRange (Nat.pow 2 n)) (List.finRange (Nat.pow 2 n))).map
      fun rc => a.entry rc.1 rc.2 := by
  have hvector : ∀ {β : Type} {k : Nat} (v : Vector β k),
      v.toList = (List.finRange k).map fun i => v[i] := by
    intro β k v
    exact List.ext_getElem (by simp) fun i _ _ => by simp
  rw [Dense.toList, hvector, List.product, List.map_flatMap, List.flatMap_map]
  refine List.flatMap_congr fun r _ => ?_
  rw [hvector, List.map_map]
  rfl

/-- The entries of two matrices, side by side. -/
theorem mem_zip_toList {a b : Matrix ℝ n} {x y : Amplitude ℝ} :
    (x, y) ∈ a.toList.zip b.toList ↔ ∃ r c, a.entry r c = x ∧ b.entry r c = y := by
  rw [toList_eq_map, toList_eq_map, List.zip_map', List.mem_map]
  constructor
  · rintro ⟨⟨r, c⟩, -, heq⟩
    exact ⟨r, c, Prod.mk.inj heq⟩
  · rintro ⟨r, c, rfl, rfl⟩
    exact ⟨(r, c), List.pair_mem_product.mpr ⟨List.mem_finRange r, List.mem_finRange c⟩, rfl⟩

/-! ### The comparison -/

/-- **What the comparison asks for**: at the chosen entry a size that reaches the tolerance and a
quotient that is almost a phase, and everywhere almost the other entry after multiplication. -/
theorem equivalentUpToPhase_eq_true_iff {a b : Matrix ℝ n} {t : ℝ} :
    equivalentUpToPhase a b t = true ↔
      ∀ p q, pivot? (a.toList.zip b.toList) = some (p, q) →
        t ≤ size p ∧ |size (q / p) - 1| ≤ t ∧
          ∀ r c, size (a.entry r c * (q / p) - b.entry r c) < t := by
  have hone : (Scalar.ofNat 1 : ℝ) = 1 := ExactScalar.ofNat_one
  unfold equivalentUpToPhase
  rw [if_neg (not_not_intro rfl)]
  cases hpivot : pivot? (a.toList.zip b.toList) with
  | none =>
    simp only [hpivot]
    exact iff_of_true trivial nofun
  | some best =>
    obtain ⟨p, q⟩ := best
    simp only [hpivot, less_eq_true_iff, hone]
    -- the three tests, in their order
    by_cases hsmall : size p < t
    · rw [if_pos hsmall]
      exact iff_of_false Bool.false_ne_true fun h => absurd (h p q rfl).1 (not_le.mpr hsmall)
    rw [if_neg hsmall]
    by_cases hfar : t < Measured.abs (size (q / p) - 1)
    · rw [if_pos hfar]
      exact iff_of_false Bool.false_ne_true fun h => absurd (h p q rfl).2.1 (not_le.mpr hfar)
    rw [if_neg hfar, List.all_eq_true]
    constructor
    · rintro hall _ _ ⟨⟩
      refine ⟨not_lt.mp hsmall, not_lt.mp hfar, fun r c => ?_⟩
      exact less_eq_true_iff.mp
        (hall (a.entry r c, b.entry r c) (mem_zip_toList.mpr ⟨r, c, rfl, rfl⟩))
    · rintro h ⟨x, y⟩ hmem
      obtain ⟨r, c, rfl, rfl⟩ := mem_zip_toList.mp hmem
      exact less_eq_true_iff.mpr ((h p q rfl).2.2 r c)

/-- **Soundness**: twice the tolerance bounds how far the entries are from a multiple. -/
theorem exists_isPhase_of_equivalentUpToPhase {a b : Matrix ℝ n} {t : ℝ} (ha : a.IsUnitary)
    (hpos : 0 < t) (hlt : t < 1) (h : equivalentUpToPhase a b t = true) :
    ∃ w : Amplitude ℝ, w.IsPhase ∧ ∀ r c, size (w * a.entry r c - b.entry r c) < 2 * t := by
  rw [equivalentUpToPhase_eq_true_iff] at h
  cases hpivot : pivot? (a.toList.zip b.toList) with
  | none =>
    -- there are entries, so one of them is chosen
    refine ⟨1, IsPhase.one, fun r c => ?_⟩
    have hmem : (a.entry r c, b.entry r c) ∈ a.toList.zip b.toList :=
      mem_zip_toList.mpr ⟨r, c, rfl, rfl⟩
    rw [pivot?_eq_none_iff.mp hpivot] at hmem
    cases hmem
  | some best =>
    obtain ⟨p, q⟩ := best
    obtain ⟨-, hfactor, hentries⟩ := h p q hpivot
    have hne : size (q / p) ≠ 0 := by
      intro hzero
      rw [hzero, zero_sub, abs_neg, abs_one] at hfactor
      linarith
    obtain ⟨w, hw, hnear⟩ := exists_isPhase_near hne
    refine ⟨w, hw, fun r c => ?_⟩
    have hsplit : w * a.entry r c - b.entry r c
        = (w - q / p) * a.entry r c + (a.entry r c * (q / p) - b.entry r c) := by ring
    have hmoved : size ((w - q / p) * a.entry r c) ≤ t := by
      calc size ((w - q / p) * a.entry r c)
          = size (w - q / p) * size (a.entry r c) := size_mul _ _
        _ ≤ t * 1 := by
            rw [hnear]
            exact mul_le_mul hfactor (size_entry_le_one ha r c) (size_nonneg _) hpos.le
        _ = t := mul_one t
    calc size (w * a.entry r c - b.entry r c)
        ≤ size ((w - q / p) * a.entry r c) + size (a.entry r c * (q / p) - b.entry r c) := by
          rw [hsplit]
          exact size_add_le _ _
      _ < t + t := add_lt_add_of_le_of_lt hmoved (hentries r c)
      _ = 2 * t := (two_mul t).symm

/-- **Completeness**: a multiple by a phase is recognised, if some entry reaches the tolerance. -/
theorem equivalentUpToPhase_of_isPhase {a b : Matrix ℝ n} {t : ℝ} (hpos : 0 < t)
    {w : Amplitude ℝ} (hw : w.IsPhase) (hb : ∀ r c, b.entry r c = w * a.entry r c)
    (hreach : ∃ r c, t ≤ size (a.entry r c)) : equivalentUpToPhase a b t = true := by
  rw [equivalentUpToPhase_eq_true_iff]
  intro p q hpivot
  obtain ⟨hmem, hgreatest⟩ := le_size_of_pivot? hpivot
  obtain ⟨r, c, rfl, rfl⟩ := mem_zip_toList.mp hmem
  -- no entry is greater than the chosen one
  have hchosen : t ≤ size (a.entry r c) := by
    obtain ⟨r', c', hle⟩ := hreach
    exact hle.trans (hgreatest _ (mem_zip_toList.mpr ⟨r', c', rfl, rfl⟩))
  have hfactor : b.entry r c / a.entry r c = w := by
    have hne : toComplex (a.entry r c) ≠ 0 := norm_pos_iff.mp (hpos.trans_le hchosen)
    refine toComplex_injective ?_
    rw [toComplex_div, hb, map_mul, mul_div_cancel_right₀ _ hne]
  rw [hfactor, isPhase_iff_size.mp hw]
  refine ⟨hchosen, by rw [sub_self, abs_zero]; exact hpos.le, fun r' c' => ?_⟩
  have hzero : a.entry r' c' * w - b.entry r' c' = 0 := by rw [hb, mul_comm, sub_self]
  rw [hzero, size_zero]
  exact hpos

/-- **The comparison is right up to its tolerance.** For a unitary matrix it accepts only what is a
multiple of the matrix by a phase, up to twice the tolerance, and every such multiple if some entry
reaches the tolerance. Matrices on different numbers of qubits are never equivalent. -/
theorem equivalentUpToPhase_withinTolerance :
    (∀ {n : Nat} (a b : Matrix ℝ n) {t : ℝ}, a.IsUnitary → 0 < t → t < 1 →
      (equivalentUpToPhase a b t = true →
        ∃ w : Amplitude ℝ, w.IsPhase ∧ ∀ r c, size (w * a.entry r c - b.entry r c) < 2 * t) ∧
      ∀ w : Amplitude ℝ, w.IsPhase → (∀ r c, b.entry r c = w * a.entry r c) →
        (∃ r c, t ≤ size (a.entry r c)) → equivalentUpToPhase a b t = true) ∧
    ∀ {n m : Nat} (a : Matrix ℝ n) (b : Matrix ℝ m) (t : ℝ), n ≠ m →
      equivalentUpToPhase a b t = false := by
  refine ⟨fun a b t ha hpos hlt => ⟨?sound, ?complete⟩, ?width⟩
  case sound => exact exists_isPhase_of_equivalentUpToPhase ha hpos hlt
  case complete =>
    intro w hw hb hreach
    exact equivalentUpToPhase_of_isPhase hpos hw hb hreach
  case width =>
    intro n m a b t hne
    unfold equivalentUpToPhase
    rw [if_pos hne]

/-- A quarter turn of the phase is not seen on the matrix of a Hadamard gate. -/
theorem equivalentUpToPhase_withinTolerance_hadamard :
    let a : Matrix ℝ 1 := (Matrix.identity 1).applySingle Single.h 0
    let b : Matrix ℝ 1 := Dense.ofEntries fun r c => Amplitude.i * a.entry r c
    a.IsUnitary ∧ (0 : ℝ) < 2⁻¹ ∧ (2⁻¹ : ℝ) < 1 ∧
      (∃ r c, 2⁻¹ ≤ size (a.entry r c)) ∧ equivalentUpToPhase a b 2⁻¹ = true ∧
      (∃ w : Amplitude ℝ, w.IsPhase ∧
        ∀ r c, size (w * a.entry r c - b.entry r c) < 2 * 2⁻¹) ∧
      equivalentUpToPhase a (Matrix.identity 2 : Matrix ℝ 2) 2⁻¹ = false := by
  intro a b
  obtain ⟨hsame, hother⟩ := equivalentUpToPhase_withinTolerance
  have ha : a.IsUnitary := by
    refine Matrix.isUnitary_identity.single Single.isUnitary_h (q := 0) ?_
    rfl
  have hpos : (0 : ℝ) < 2⁻¹ := by norm_num
  have hlt : (2⁻¹ : ℝ) < 1 := by norm_num
  have hphase : (Amplitude.i : Amplitude ℝ).IsPhase := by
    show (Scalar.ofNat 0 : ℝ) * Scalar.ofNat 0 + Scalar.ofNat 1 * Scalar.ofNat 1 = 1
    rw [ExactScalar.ofNat_zero, ExactScalar.ofNat_one]
    ring
  have hreach : ∃ r c, 2⁻¹ ≤ size (a.entry r c) := by
    have hlow : Basis.lower (0 : Fin 1) (0 : Basis 1) = 0 := by decide
    have hhigh : Basis.raise (0 : Fin 1) (0 : Basis 1) ≠ 0 := by decide
    have hbit : Basis.bit (0 : Basis 1) 0 = false := by decide
    have hentry : a.entry 0 0 = ofReal Trigonometric.sqrtHalf := by
      simp [a, Dense.applySingle, Matrix.identity, Single.h, hlow, hhigh, hbit, one_def, zero_def]
    refine ⟨0, 0, ?_⟩
    rw [hentry, size_ofReal]
    have hsqrt : 1 ≤ Real.sqrt 2 := Real.one_le_sqrt.mpr (by norm_num)
    calc (2⁻¹ : ℝ) = 1 / 2 := (one_div 2).symm
      _ ≤ Real.sqrt 2 / 2 := div_le_div_of_nonneg_right hsqrt (by norm_num)
      _ ≤ |Real.sqrt 2 / 2| := le_abs_self _
  have hb : ∀ r c, b.entry r c = Amplitude.i * a.entry r c := fun r c =>
    Dense.entry_ofEntries _ r c
  obtain ⟨hsound, hcomplete⟩ := hsame a b ha hpos hlt
  have hequivalent := hcomplete Amplitude.i hphase hb hreach
  exact ⟨ha, hpos, hlt, hreach, hequivalent, hsound hequivalent,
    hother a (Matrix.identity 2) 2⁻¹ (by decide)⟩

end Unitary

end CircuitDispatch
