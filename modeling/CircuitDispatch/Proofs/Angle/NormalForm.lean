import CircuitDispatch.Proofs.Angle.Values

/-!
# The normal form of angles

An angle is in normal form if nothing in it is left to be computed or dropped: whatever part of it
has a value is a number, and no term of a sum or a difference counts as zero (`Angle.IsNormal`).
Simplifying leads to the normal form (`Angle.isNormal_simplify`) and changes neither the value nor
the symbols on the way. The normal forms are exactly the angles that simplifying leaves alone
(`Angle.simplify_eq_self_iff`).

Nothing is assumed about the scalars. In particular a number that is negligible need not be zero, so
a sum without its zero terms may have another value than the sum. This does no harm, because sums
that have a value are computed and not searched for zero terms: where terms are dropped, neither the
sum nor what is left of it has a value (`Angle.eval?_sum_eq_none`), which is also why dropping makes
nothing new that could be computed. The half turn and quotients by zero need no case of their own:
the one has a value, the other has none.
-/

namespace CircuitDispatch.Angle

variable {R : Type} {a b : Angle R}

/-! ### Parts of an angle -/

/-- An angle and everything that it is made of. -/
def parts : Angle R → List (Angle R)
  | .constant v => [.constant v]
  | .symbol name => [.symbol name]
  | .pi => [.pi]
  | .neg a => .neg a :: a.parts
  | .add a b => .add a b :: (a.parts ++ b.parts)
  | .sub a b => .sub a b :: (a.parts ++ b.parts)
  | .mul a b => .mul a b :: (a.parts ++ b.parts)
  | .div a b => .div a b :: (a.parts ++ b.parts)

theorem self_mem_parts (a : Angle R) : a ∈ a.parts := by
  cases a <;> exact List.mem_cons_self

variable [Scalar R]

/-- Nothing is left to do at the top of an angle. -/
structure Settled (a : Angle R) : Prop where
  /-- What has a value is a number. -/
  computed : ∀ v, a.eval? = some v → a = .constant v
  /-- No term of a sum or a difference is zero. -/
  terms : ∀ x y, a = .add x y ∨ a = .sub x y → x.isZero = false ∧ y.isZero = false

/-- In an angle without a value there is nothing to compute, only terms to drop. -/
theorem settled_of_eval?_eq_none (h : a.eval? = none)
    (hterms : ∀ x y, a = .add x y ∨ a = .sub x y → x.isZero = false ∧ y.isZero = false) :
    a.Settled where
  computed v hv := by
    rw [h] at hv
    cases hv
  terms := hterms

/-- **Normal form.** Nothing is left to do in any part of an angle. -/
def IsNormal (a : Angle R) : Prop := ∀ p ∈ a.parts, p.Settled

namespace IsNormal

theorem settled (h : a.IsNormal) : a.Settled := h a (self_mem_parts a)

theorem neg_iff : (neg a).IsNormal ↔ (neg a).Settled ∧ a.IsNormal :=
  List.forall_mem_cons

theorem add_iff : (add a b).IsNormal ↔ (add a b).Settled ∧ a.IsNormal ∧ b.IsNormal := by
  refine List.forall_mem_cons.trans (and_congr_right fun _ => ?_)
  exact List.forall_mem_append

theorem sub_iff : (sub a b).IsNormal ↔ (sub a b).Settled ∧ a.IsNormal ∧ b.IsNormal := by
  refine List.forall_mem_cons.trans (and_congr_right fun _ => ?_)
  exact List.forall_mem_append

theorem mul_iff : (mul a b).IsNormal ↔ (mul a b).Settled ∧ a.IsNormal ∧ b.IsNormal := by
  refine List.forall_mem_cons.trans (and_congr_right fun _ => ?_)
  exact List.forall_mem_append

theorem div_iff : (div a b).IsNormal ↔ (div a b).Settled ∧ a.IsNormal ∧ b.IsNormal := by
  refine List.forall_mem_cons.trans (and_congr_right fun _ => ?_)
  exact List.forall_mem_append

/-- Numbers are in normal form. -/
theorem constant (v : R) : (Angle.constant v).IsNormal := by
  intro p hp
  obtain rfl := List.mem_singleton.mp hp
  exact ⟨fun w hw => congrArg Angle.constant (Option.some.inj hw), by simp⟩

/-- Symbols are in normal form. -/
theorem symbol (name : String) : (Angle.symbol name : Angle R).IsNormal := by
  intro p hp
  obtain rfl := List.mem_singleton.mp hp
  exact settled_of_eval?_eq_none rfl (by simp)

end IsNormal

/-! ### Dropping zero terms -/

/-- What counts as zero has a value. -/
theorem eval?_ne_none_of_isZero (h : a.isZero = true) : a.eval? ≠ none := by
  obtain ⟨v, hv, -⟩ := isZero_eq_true_iff.mp h
  rw [hv]
  exact Option.some_ne_none v

/-- Without its zero terms a sum has no value either, if it has none. -/
theorem eval?_sum_eq_none (h : (add a b).eval? = none) : (sum a b).eval? = none := by
  have hnone : a.eval? = none ∨ b.eval? = none := eval?_add_eq_none_iff.mp h
  unfold sum
  split
  case isTrue hzero => exact hnone.resolve_left (eval?_ne_none_of_isZero hzero)
  case isFalse =>
    split
    case isTrue hzero => exact hnone.resolve_right (eval?_ne_none_of_isZero hzero)
    case isFalse => exact h

/-- Without its zero terms a difference has no value either, if it has none. -/
theorem eval?_difference_eq_none (h : (sub a b).eval? = none) : (difference a b).eval? = none := by
  have hnone : a.eval? = none ∨ b.eval? = none := eval?_sub_eq_none_iff.mp h
  unfold difference
  split
  case isTrue hzero => exact hnone.resolve_right (eval?_ne_none_of_isZero hzero)
  case isFalse =>
    split
    case isTrue hzero =>
      -- the negative that is left has no value, since its operand has none
      have hb : b.eval? = none := hnone.resolve_left (eval?_ne_none_of_isZero hzero)
      exact eval?_neg_eq_none_iff.mpr hb
    case isFalse => exact h

theorem isNormal_sum (ha : a.IsNormal) (hb : b.IsNormal) (h : (add a b).eval? = none) :
    (sum a b).IsNormal := by
  unfold sum
  split
  case isTrue => exact hb
  case isFalse hzeroa =>
    split
    case isTrue => exact ha
    case isFalse hzerob =>
      refine IsNormal.add_iff.mpr ⟨settled_of_eval?_eq_none h ?_, ha, hb⟩
      rintro x y (hxy | hxy)
      · cases hxy
        exact ⟨Bool.eq_false_iff.mpr hzeroa, Bool.eq_false_iff.mpr hzerob⟩
      · cases hxy

theorem isNormal_difference (ha : a.IsNormal) (hb : b.IsNormal) (h : (sub a b).eval? = none) :
    (difference a b).IsNormal := by
  have hnone : a.eval? = none ∨ b.eval? = none := eval?_sub_eq_none_iff.mp h
  unfold difference
  split
  case isTrue => exact ha
  case isFalse hzerob =>
    split
    case isTrue hzero =>
      have hvalue : (neg b).eval? = none :=
        eval?_neg_eq_none_iff.mpr (hnone.resolve_left (eval?_ne_none_of_isZero hzero))
      exact IsNormal.neg_iff.mpr ⟨settled_of_eval?_eq_none hvalue (by simp), hb⟩
    case isFalse hzeroa =>
      refine IsNormal.sub_iff.mpr ⟨settled_of_eval?_eq_none h ?_, ha, hb⟩
      rintro x y (hxy | hxy)
      · cases hxy
      · cases hxy
        exact ⟨Bool.eq_false_iff.mpr hzeroa, Bool.eq_false_iff.mpr hzerob⟩

/-! ### Simplifying -/

/-- **Simplifying keeps the value**, or the lack of one. -/
theorem eval?_simplify (a : Angle R) : a.simplify.eval? = a.eval? := by
  induction a using eval?_induction with
  | value a v hv =>
    rw [simplify_of_eval? hv, hv]
    rfl
  | symbol name => rfl
  | neg a hv iha =>
    rw [hv, simplify_neg hv, eval?_neg_eq_none_iff, iha]
    exact eval?_neg_eq_none_iff.mp hv
  | add a b hv iha ihb =>
    rw [hv, simplify_add hv]
    refine eval?_sum_eq_none ?_
    rw [eval?_add_eq_none_iff, iha, ihb]
    exact eval?_add_eq_none_iff.mp hv
  | sub a b hv iha ihb =>
    rw [hv, simplify_sub hv]
    refine eval?_difference_eq_none ?_
    rw [eval?_sub_eq_none_iff, iha, ihb]
    exact eval?_sub_eq_none_iff.mp hv
  | mul a b hv iha ihb =>
    rw [hv, simplify_mul hv, eval?_mul_eq_none_iff, iha, ihb]
    exact eval?_mul_eq_none_iff.mp hv
  | div a b hv iha ihb =>
    rw [hv, simplify_div hv, eval?_div_eq_none_iff, iha, ihb]
    exact eval?_div_eq_none_iff.mp hv

/-- **Simplifying leads to the normal form.** -/
theorem isNormal_simplify (a : Angle R) : a.simplify.IsNormal := by
  induction a using eval?_induction with
  | value a v hv =>
    rw [simplify_of_eval? hv]
    exact IsNormal.constant v
  | symbol name => exact IsNormal.symbol name
  | neg a hv iha =>
    have hnone : (neg a.simplify).eval? = none := by
      rw [← simplify_neg hv, eval?_simplify]
      exact hv
    rw [simplify_neg hv]
    exact IsNormal.neg_iff.mpr ⟨settled_of_eval?_eq_none hnone (by simp), iha⟩
  | add a b hv iha ihb =>
    rw [simplify_add hv]
    refine isNormal_sum iha ihb ?_
    rw [eval?_add_eq_none_iff, eval?_simplify, eval?_simplify]
    exact eval?_add_eq_none_iff.mp hv
  | sub a b hv iha ihb =>
    rw [simplify_sub hv]
    refine isNormal_difference iha ihb ?_
    rw [eval?_sub_eq_none_iff, eval?_simplify, eval?_simplify]
    exact eval?_sub_eq_none_iff.mp hv
  | mul a b hv iha ihb =>
    have hnone : (mul a.simplify b.simplify).eval? = none := by
      rw [← simplify_mul hv, eval?_simplify]
      exact hv
    rw [simplify_mul hv]
    exact IsNormal.mul_iff.mpr ⟨settled_of_eval?_eq_none hnone (by simp), iha, ihb⟩
  | div a b hv iha ihb =>
    have hnone : (div a.simplify b.simplify).eval? = none := by
      rw [← simplify_div hv, eval?_simplify]
      exact hv
    rw [simplify_div hv]
    exact IsNormal.div_iff.mpr ⟨settled_of_eval?_eq_none hnone (by simp), iha, ihb⟩

/-- An angle in normal form is not changed by simplifying it. -/
theorem IsNormal.simplify_eq (h : a.IsNormal) : a.simplify = a := by
  induction a using eval?_induction with
  | value a v hv =>
    -- what has a value is a number already
    rw [simplify_of_eval? hv]
    exact (h.settled.computed v hv).symm
  | symbol name => rfl
  | neg a hv iha =>
    obtain ⟨-, ha⟩ := IsNormal.neg_iff.mp h
    rw [simplify_neg hv, iha ha]
  | add a b hv iha ihb =>
    obtain ⟨hsettled, ha, hb⟩ := IsNormal.add_iff.mp h
    -- neither term is zero, so both stay
    obtain ⟨hzeroa, hzerob⟩ := hsettled.terms a b (.inl rfl)
    rw [simplify_add hv, iha ha, ihb hb, sum, hzeroa, hzerob]
    rfl
  | sub a b hv iha ihb =>
    obtain ⟨hsettled, ha, hb⟩ := IsNormal.sub_iff.mp h
    obtain ⟨hzeroa, hzerob⟩ := hsettled.terms a b (.inr rfl)
    rw [simplify_sub hv, iha ha, ihb hb, difference, hzeroa, hzerob]
    rfl
  | mul a b hv iha ihb =>
    obtain ⟨-, ha, hb⟩ := IsNormal.mul_iff.mp h
    rw [simplify_mul hv, iha ha, ihb hb]
  | div a b hv iha ihb =>
    obtain ⟨-, ha, hb⟩ := IsNormal.div_iff.mp h
    rw [simplify_div hv, iha ha, ihb hb]

/-- The normal forms are what simplifying leaves alone. -/
theorem simplify_eq_self_iff : a.simplify = a ↔ a.IsNormal := by
  constructor
  · intro h
    rw [← h]
    exact isNormal_simplify a
  · exact IsNormal.simplify_eq

/-- **Simplifying computes the normal form.** It keeps the value and the symbols of an angle; it
leaves no part that could be computed and no zero term; and it changes nothing but what is not in
normal form, so a second time nothing at all. -/
theorem simplify_normalises (a : Angle R) :
    a.simplify.eval? = a.eval? ∧ a.simplify.symbols = a.symbols ∧ a.simplify.IsNormal ∧
      (∀ b : Angle R, b.simplify = b ↔ b.IsNormal) ∧ a.simplify.simplify = a.simplify := by
  have hsymbols : a.simplify.symbols = a.symbols := by
    unfold symbols
    rw [occurrences_simplify]
  have hagain : a.simplify.simplify = a.simplify := (isNormal_simplify a).simplify_eq
  exact ⟨eval?_simplify a, hsymbols, isNormal_simplify a, fun _ => simplify_eq_self_iff, hagain⟩

end CircuitDispatch.Angle
