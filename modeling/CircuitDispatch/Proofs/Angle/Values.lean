import Mathlib.Logic.Basic
import CircuitDispatch.Angle.Basic

/-!
# Angles without a value

Two things keep an angle from having a value: a symbol is free in it, or some part of it is a
quotient by zero (`Angle.eval?_eq_none_iff`). The name that is reported tells them apart
(`Angle.culprit_cases`).

Simplifying computes the parts that have values, and drops some of these. So what it does is shown
by an induction that stops at such parts (`Angle.eval?_induction`). No symbol is free in them, so an
angle and its simplification have the same symbols (`Angle.occurrences_simplify`).
-/

namespace CircuitDispatch.Angle

variable {R : Type} [Scalar R] {a b : Angle R}

/-- Whether some part of an angle is a quotient by zero. -/
def DividesByZero : Angle R → Prop
  | .constant _ | .symbol _ | .pi => False
  | .neg a => a.DividesByZero
  | .add a b | .sub a b | .mul a b => a.DividesByZero ∨ b.DividesByZero
  | .div a b => a.DividesByZero ∨ b.DividesByZero ∨ ∃ v, b.eval? = some v ∧ Scalar.isZero v = true

attribute [local simp] eval? occurrences DividesByZero

/-! ### Where a value is missing -/

omit [Scalar R] in
/-- An operation has no value exactly if an operand has none. -/
private theorem bind_bind_eq_none_iff {x y : Option R} {f : R → R → R} :
    (x.bind fun v => y.bind fun w => some (f v w)) = none ↔ x = none ∨ y = none := by
  cases x with
  | none => simp
  | some v => cases y <;> simp

theorem eval?_neg_eq_none_iff : (neg a).eval? = none ↔ a.eval? = none :=
  Option.map_eq_none_iff

theorem eval?_add_eq_none_iff : (add a b).eval? = none ↔ a.eval? = none ∨ b.eval? = none :=
  bind_bind_eq_none_iff

theorem eval?_sub_eq_none_iff : (sub a b).eval? = none ↔ a.eval? = none ∨ b.eval? = none :=
  bind_bind_eq_none_iff

theorem eval?_mul_eq_none_iff : (mul a b).eval? = none ↔ a.eval? = none ∨ b.eval? = none :=
  bind_bind_eq_none_iff

theorem eval?_div_eq_none_iff : (div a b).eval? = none ↔
    a.eval? = none ∨ b.eval? = none ∨ ∃ v, b.eval? = some v ∧ Scalar.isZero v = true := by
  rw [eval?]
  cases hb : b.eval? with
  | none => simp
  | some w =>
    cases hzero : Scalar.isZero w with
    | true => simp [hzero]
    | false =>
      -- the divisor is all right, so the quotient has a value if the dividend has one
      cases a.eval? <;> simp [hzero]

/-! ### Values of the parts -/

omit [Scalar R] in
/-- An operation has the value that its operands give. -/
private theorem bind_bind_eq_some_iff {x y : Option R} {f : R → R → R} {u : R} :
    (x.bind fun v => y.bind fun w => some (f v w)) = some u ↔
      ∃ v w, x = some v ∧ y = some w ∧ f v w = u := by
  simp only [Option.bind_eq_some_iff, Option.some.injEq, exists_and_left]

theorem eval?_neg_eq_some_iff {u : R} :
    (neg a).eval? = some u ↔ ∃ v, a.eval? = some v ∧ -v = u :=
  Option.map_eq_some_iff

theorem eval?_add_eq_some_iff {u : R} : (add a b).eval? = some u ↔
    ∃ v w, a.eval? = some v ∧ b.eval? = some w ∧ v + w = u :=
  bind_bind_eq_some_iff

theorem eval?_sub_eq_some_iff {u : R} : (sub a b).eval? = some u ↔
    ∃ v w, a.eval? = some v ∧ b.eval? = some w ∧ v - w = u :=
  bind_bind_eq_some_iff

theorem eval?_mul_eq_some_iff {u : R} : (mul a b).eval? = some u ↔
    ∃ v w, a.eval? = some v ∧ b.eval? = some w ∧ v * w = u :=
  bind_bind_eq_some_iff

theorem eval?_div_eq_some_iff {u : R} : (div a b).eval? = some u ↔
    ∃ v w, a.eval? = some v ∧ b.eval? = some w ∧ Scalar.isZero w = false ∧ v / w = u := by
  rw [eval?]
  constructor
  · intro h
    -- the divisor is computed first, and refused if it is zero
    obtain ⟨w, hw, hrest⟩ := Option.bind_eq_some_iff.mp h
    split at hrest
    case isTrue => cases hrest
    case isFalse hzero =>
      obtain ⟨v, hv, hu⟩ := Option.bind_eq_some_iff.mp hrest
      exact ⟨v, w, hv, hw, Bool.eq_false_iff.mpr hzero, Option.some.inj hu⟩
  · rintro ⟨v, w, hv, hw, hzero, rfl⟩
    simp [hv, hw, hzero]

/-- **What keeps an angle from having a value**: a free symbol or a quotient by zero. -/
theorem eval?_eq_none_iff : a.eval? = none ↔ a.occurrences ≠ [] ∨ a.DividesByZero := by
  induction a with
  | constant | pi | symbol => simp
  | neg a iha => simp [iha]
  | add a b iha ihb | sub a b iha ihb | mul a b iha ihb =>
    refine bind_bind_eq_none_iff.trans ?_
    simp only [iha, ihb, occurrences, DividesByZero, Ne, List.append_eq_nil_iff, not_and_or]
    exact or_or_or_comm
  | div a b iha ihb =>
    simp only [eval?_div_eq_none_iff, iha, ihb, occurrences, DividesByZero, Ne,
      List.append_eq_nil_iff, not_and_or, or_assoc, or_left_comm]

/-- An angle with a value has no free symbol. -/
theorem occurrences_of_eval? {v : R} (h : a.eval? = some v) : a.occurrences = [] := by
  refine Decidable.byContradiction fun hoccurs => ?_
  rw [eval?_eq_none_iff.mpr (.inl hoccurs)] at h
  cases h

omit [Scalar R] in
theorem mem_symbols {name : String} : name ∈ a.symbols ↔ name ∈ a.occurrences :=
  SortedList.mem_ofList

/-- **What is reported for an angle without value**: one of its symbols, or, where it has none,
the whole angle, which divides by zero. -/
theorem culprit_cases (h : a.eval? = none) :
    a.culprit ∈ a.symbols ∨ a.symbols = [] ∧ a.culprit = a.render ∧ a.DividesByZero := by
  unfold culprit
  cases hsymbols : a.symbols with
  | cons name rest => exact .inl List.mem_cons_self
  | nil =>
    have hoccurs : a.occurrences = [] := by
      refine List.eq_nil_iff_forall_not_mem.mpr fun name hname => ?_
      rw [← mem_symbols, hsymbols] at hname
      cases hname
    exact .inr ⟨rfl, rfl, (eval?_eq_none_iff.mp h).resolve_left (not_not_intro hoccurs)⟩

/-- **Induction up to values.** An angle that has a value is a case of its own, so every other case
is about an angle without one. -/
@[elab_as_elim]
theorem eval?_induction {motive : Angle R → Prop}
    (value : ∀ a v, a.eval? = some v → motive a) (symbol : ∀ name, motive (.symbol name))
    (neg : ∀ a, (neg a).eval? = none → motive a → motive (.neg a))
    (add : ∀ a b, (add a b).eval? = none → motive a → motive b → motive (.add a b))
    (sub : ∀ a b, (sub a b).eval? = none → motive a → motive b → motive (.sub a b))
    (mul : ∀ a b, (mul a b).eval? = none → motive a → motive b → motive (.mul a b))
    (div : ∀ a b, (div a b).eval? = none → motive a → motive b → motive (.div a b))
    (a : Angle R) : motive a := by
  have hvalue : ∀ {a : Angle R}, (a.eval? = none → motive a) → motive a := by
    intro a h
    cases hv : a.eval? with
    | none => exact h hv
    | some v => exact value a v hv
  induction a with
  | constant v => exact value _ v rfl
  | pi => exact value _ Scalar.pi rfl
  | symbol name => exact symbol name
  | neg a iha => exact hvalue fun hv => neg a hv iha
  | add a b iha ihb => exact hvalue fun hv => add a b hv iha ihb
  | sub a b iha ihb => exact hvalue fun hv => sub a b hv iha ihb
  | mul a b iha ihb => exact hvalue fun hv => mul a b hv iha ihb
  | div a b iha ihb => exact hvalue fun hv => div a b hv iha ihb

/-! ### Simplifying -/

/-- An angle that has a value simplifies to this value. -/
theorem simplify_of_eval? {v : R} (h : a.eval? = some v) : a.simplify = .constant v := by
  unfold simplify
  rw [h]

/-! An angle without a value is simplified part by part. -/

theorem simplify_neg (h : (neg a).eval? = none) : (neg a).simplify = neg a.simplify := by
  rw [simplify, h]

theorem simplify_add (h : (add a b).eval? = none) :
    (add a b).simplify = sum a.simplify b.simplify := by
  rw [simplify, h]

theorem simplify_sub (h : (sub a b).eval? = none) :
    (sub a b).simplify = difference a.simplify b.simplify := by
  rw [simplify, h]

theorem simplify_mul (h : (mul a b).eval? = none) :
    (mul a b).simplify = mul a.simplify b.simplify := by
  rw [simplify, h]

theorem simplify_div (h : (div a b).eval? = none) :
    (div a b).simplify = div a.simplify b.simplify := by
  rw [simplify, h]

/-- An angle counts as zero if it has a value that is negligible. -/
theorem isZero_eq_true_iff :
    a.isZero = true ↔ ∃ v, a.eval? = some v ∧ Scalar.negligible v = true := by
  unfold isZero
  cases a.eval? <;> simp

/-- What is dropped has no symbols. -/
theorem occurrences_of_isZero (h : a.isZero = true) : a.occurrences = [] := by
  unfold isZero at h
  split at h
  case h_1 v hv => exact occurrences_of_eval? hv
  case h_2 => cases h

theorem occurrences_sum (a b : Angle R) : (sum a b).occurrences = (add a b).occurrences := by
  unfold sum
  split
  case isTrue h => rw [occurrences, occurrences_of_isZero h, List.nil_append]
  case isFalse =>
    split
    case isTrue h => rw [occurrences, occurrences_of_isZero h, List.append_nil]
    case isFalse => rfl

theorem occurrences_difference (a b : Angle R) :
    (difference a b).occurrences = (sub a b).occurrences := by
  unfold difference
  split
  case isTrue h => rw [occurrences, occurrences_of_isZero h, List.append_nil]
  case isFalse =>
    split
    case isTrue h => rw [occurrences, occurrences, occurrences_of_isZero h, List.nil_append]
    case isFalse => rfl

/-- **Simplifying keeps the symbols**: none is lost, and none comes in. -/
theorem occurrences_simplify (a : Angle R) : a.simplify.occurrences = a.occurrences := by
  induction a using eval?_induction with
  | value a v hv =>
    rw [simplify_of_eval? hv, occurrences_of_eval? hv]
    rfl
  | symbol name => rfl
  | neg a hv iha => rw [simplify_neg hv, occurrences, occurrences, iha]
  | add a b hv iha ihb =>
    rw [simplify_add hv, occurrences_sum, occurrences, occurrences, iha, ihb]
  | sub a b hv iha ihb =>
    rw [simplify_sub hv, occurrences_difference, occurrences, occurrences, iha, ihb]
  | mul a b hv iha ihb => rw [simplify_mul hv, occurrences, occurrences, iha, ihb]
  | div a b hv iha ihb => rw [simplify_div hv, occurrences, occurrences, iha, ihb]

end CircuitDispatch.Angle
