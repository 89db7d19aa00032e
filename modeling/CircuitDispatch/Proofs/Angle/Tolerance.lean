import CircuitDispatch.Proofs.Angle.Binding
import CircuitDispatch.Proofs.Angle.NormalForm

/-!
# What dropping small terms costs

Simplifying drops terms that have a value below the tolerance. Over the real numbers this changes
the value that an angle has once its symbols are bound, and this module says by how much.

Where a term is dropped, the sum or difference changes by less than the tolerance
(`Angle.near_of_eval?_bind_sum`). What becomes of this further up depends on what stands there. Sums,
differences and signs pass errors on as they are. A product multiplies the error of one factor by
the other factor, and a quotient divides by a divisor that may itself be off. `Angle.slack` adds all
of this up, so it bounds the difference between an angle and its simplification wherever both have a
value (`Angle.abs_sub_le_slack`). A simplification has a value where its angle has one, if no divisor
is as close to zero as its own slack (`Angle.exists_eval?_bind_simplify`). Where no sum is scaled,
this condition is met and the slack is the tolerance for each sum and difference
(`Angle.slack_le_of_scalesNothing`).

In general it is not (`Angle.tolerance_exceeded`): a large factor makes an error of any size out of
one dropped term, and a divisor may be nothing but the term that was dropped.
-/

namespace CircuitDispatch.Angle

/-! ### Sums and what scales them -/

section Shape

variable {R : Type}

/-- Whether an angle is a sum or a difference. -/
def isSum : Angle R → Bool
  | .add _ _ | .sub _ _ => true
  | _ => false

/-- Whether an angle is a product or a quotient. -/
def isScaling : Angle R → Bool
  | .mul _ _ | .div _ _ => true
  | _ => false

/-- The number of sums and differences in an angle. -/
def sums (a : Angle R) : Nat := a.parts.countP isSum

theorem sums_neg (a : Angle R) : (neg a).sums = a.sums :=
  List.countP_cons_of_neg Bool.false_ne_true

theorem sums_add (a b : Angle R) : (add a b).sums = a.sums + b.sums + 1 := by
  rw [sums, parts, List.countP_cons_of_pos rfl, List.countP_append]
  rfl

theorem sums_sub (a b : Angle R) : (sub a b).sums = a.sums + b.sums + 1 := by
  rw [sums, parts, List.countP_cons_of_pos rfl, List.countP_append]
  rfl

/-- Whether every sum and difference in an angle has a value, so that no term is dropped. -/
def DropsNothing [Scalar R] (a : Angle R) : Prop :=
  ∀ p ∈ a.parts, p.isSum = true → p.eval? ≠ none

/-- Whether no product and no quotient has an operand in which a term may be dropped. -/
def ScalesNothing [Scalar R] (a : Angle R) : Prop :=
  ∀ p ∈ a.parts, p.isScaling = true → p.DropsNothing

end Shape

/-! ### The slack -/

/-- The magnitude below which an angle counts as zero. -/
noncomputable def tolerance : ℝ := 1e-12

theorem tolerance_pos : 0 < tolerance := by
  unfold tolerance
  norm_num

theorem negligible_iff {x : ℝ} : Scalar.negligible x = true ↔ |x| < tolerance :=
  @decide_eq_true_iff _ (Classical.propDecidable _)

/-- The value of an angle once symbols are bound, zero where it has none. -/
noncomputable def boundValue (values : String → Option ℝ) (a : Angle ℝ) : ℝ :=
  (a.bind values).eval?.getD 0

/-- **The slack of an angle**: how far its simplification may be off under a binding. A part with a
value is computed and not off at all; each other sum or difference adds the tolerance. -/
noncomputable def slack (values : String → Option ℝ) (a : Angle ℝ) : ℝ :=
  match a.eval? with
  | some _ => 0
  | none =>
    match a with
    | .constant _ | .symbol _ | .pi => 0
    | .neg a => a.slack values
    | .add a b | .sub a b => a.slack values + b.slack values + tolerance
    | .mul a b =>
      |a.boundValue values| * b.slack values + |b.boundValue values| * a.slack values
        + a.slack values * b.slack values
    | .div a b =>
      (a.slack values + |a.boundValue values / b.boundValue values| * b.slack values)
        / |b.simplify.boundValue values|

/-- Whether every divisor in an angle is farther from zero than its slack. -/
def KeepsDivisors (values : String → Option ℝ) (a : Angle ℝ) : Prop :=
  ∀ x y, .div x y ∈ a.parts → y.slack values < |y.boundValue values|

variable {values : String → Option ℝ} {a b : Angle ℝ} {x y : ℝ}

theorem boundValue_eq (h : (a.bind values).eval? = some x) : a.boundValue values = x := by
  rw [boundValue, h, Option.getD_some]

theorem slack_of_eval? (h : a.eval? = some x) : a.slack values = 0 := by
  rw [slack.eq_def, h]

/-! An angle without a value has the slack that its parts give it. -/

theorem slack_neg (h : (neg a).eval? = none) : (neg a).slack values = a.slack values := by
  rw [slack, h]

theorem slack_add (h : (add a b).eval? = none) :
    (add a b).slack values = a.slack values + b.slack values + tolerance := by
  rw [slack, h]

theorem slack_sub (h : (sub a b).eval? = none) :
    (sub a b).slack values = a.slack values + b.slack values + tolerance := by
  rw [slack, h]

theorem slack_mul (h : (mul a b).eval? = none) : (mul a b).slack values
    = |a.boundValue values| * b.slack values + |b.boundValue values| * a.slack values
      + a.slack values * b.slack values := by
  rw [slack, h]

theorem slack_div (h : (div a b).eval? = none) : (div a b).slack values
    = (a.slack values + |a.boundValue values / b.boundValue values| * b.slack values)
      / |b.simplify.boundValue values| := by
  rw [slack, h]

/-! ### Parts of an angle that has a value -/

/-- Every part of an angle that has a value has one. -/
theorem exists_eval?_of_mem_parts (h : (a.bind values).eval? = some x) {p : Angle ℝ}
    (hp : p ∈ a.parts) : ∃ y, (p.bind values).eval? = some y := by
  induction a generalizing x with
  | constant | symbol | pi =>
    obtain rfl := List.mem_singleton.mp hp
    exact ⟨x, h⟩
  | neg a iha =>
    rcases List.mem_cons.mp hp with rfl | hp
    · exact ⟨x, h⟩
    · obtain ⟨u, hu, -⟩ := eval?_neg_eq_some_iff.mp h
      exact iha hu hp
  | add a b iha ihb | sub a b iha ihb | mul a b iha ihb =>
    rcases List.mem_cons.mp hp with rfl | hp
    · exact ⟨x, h⟩
    · obtain ⟨u, hu, hrest⟩ := Option.bind_eq_some_iff.mp h
      obtain ⟨v, hv, -⟩ := Option.bind_eq_some_iff.mp hrest
      exact (List.mem_append.mp hp).elim (iha hu) (ihb hv)
  | div a b iha ihb =>
    rcases List.mem_cons.mp hp with rfl | hp
    · exact ⟨x, h⟩
    · obtain ⟨u, v, hu, hv, -, -⟩ := eval?_div_eq_some_iff.mp h
      exact (List.mem_append.mp hp).elim (iha hu) (ihb hv)

/-- What holds of all divisors in an angle holds of those in its parts. -/
theorem KeepsDivisors.of_parts (h : b.KeepsDivisors values) (hparts : ∀ p ∈ a.parts, p ∈ b.parts) :
    a.KeepsDivisors values :=
  fun x y hxy => h x y (hparts _ hxy)

/-! The parts of both operands are parts of the whole. -/

theorem mem_parts_left {p c : Angle ℝ} {rest : List (Angle ℝ)} (hp : p ∈ a.parts) :
    p ∈ c :: (a.parts ++ rest) :=
  List.mem_cons_of_mem c (List.mem_append_left rest hp)

theorem mem_parts_right {p c : Angle ℝ} {rest : List (Angle ℝ)} (hp : p ∈ b.parts) :
    p ∈ c :: (rest ++ b.parts) :=
  List.mem_cons_of_mem c (List.mem_append_right rest hp)

/-! ### What is dropped -/

/-- What counts as zero has a value below the tolerance, whatever is bound. -/
theorem exists_small_of_isZero (values : String → Option ℝ) (h : a.isZero = true) :
    ∃ x, (a.bind values).eval? = some x ∧ |x| < tolerance := by
  obtain ⟨x, hx, hsmall⟩ := isZero_eq_true_iff.mp h
  refine ⟨x, ?_, negligible_iff.mp hsmall⟩
  rw [bind_of_eval? values hx]
  exact hx

/-- Where a sum without its zero terms has a value, its terms have values, and their sum is within
the tolerance. -/
theorem near_of_eval?_bind_sum {z : ℝ} (h : ((sum a b).bind values).eval? = some z) :
    ∃ x y, (a.bind values).eval? = some x ∧ (b.bind values).eval? = some y ∧
      |z - (x + y)| ≤ tolerance := by
  unfold sum at h
  split at h
  case isTrue hzero =>
    obtain ⟨x, hx, hsmall⟩ := exists_small_of_isZero values hzero
    refine ⟨x, z, hx, h, ?_⟩
    rw [sub_add_cancel_right, abs_neg]
    exact hsmall.le
  case isFalse =>
    split at h
    case isTrue hzero =>
      obtain ⟨y, hy, hsmall⟩ := exists_small_of_isZero values hzero
      refine ⟨z, y, h, hy, ?_⟩
      rw [sub_add_cancel_left, abs_neg]
      exact hsmall.le
    case isFalse =>
      obtain ⟨x, y, hx, hy, rfl⟩ := eval?_add_eq_some_iff.mp h
      refine ⟨x, y, hx, hy, ?_⟩
      rw [sub_self, abs_zero]
      exact tolerance_pos.le

/-- Where a difference without its zero terms has a value, its terms have values, and their
difference is within the tolerance. -/
theorem near_of_eval?_bind_difference {z : ℝ}
    (h : ((difference a b).bind values).eval? = some z) :
    ∃ x y, (a.bind values).eval? = some x ∧ (b.bind values).eval? = some y ∧
      |z - (x - y)| ≤ tolerance := by
  unfold difference at h
  split at h
  case isTrue hzero =>
    obtain ⟨y, hy, hsmall⟩ := exists_small_of_isZero values hzero
    refine ⟨z, y, h, hy, ?_⟩
    rw [sub_sub_cancel]
    exact hsmall.le
  case isFalse =>
    split at h
    case isTrue hzero =>
      -- what is left is the negative of the second term
      obtain ⟨x, hx, hsmall⟩ := exists_small_of_isZero values hzero
      obtain ⟨y, hy, rfl⟩ := eval?_neg_eq_some_iff.mp h
      refine ⟨x, y, hx, hy, ?_⟩
      have hrest : -y - (x - y) = -x := by ring
      rw [hrest, abs_neg]
      exact hsmall.le
    case isFalse =>
      obtain ⟨x, y, hx, hy, rfl⟩ := eval?_sub_eq_some_iff.mp h
      refine ⟨x, y, hx, hy, ?_⟩
      rw [sub_self, abs_zero]
      exact tolerance_pos.le

/-- A sum without its zero terms has a value, if its terms have. -/
theorem exists_eval?_bind_sum (ha : ∃ x, (a.bind values).eval? = some x)
    (hb : ∃ y, (b.bind values).eval? = some y) :
    ∃ z, ((sum a b).bind values).eval? = some z := by
  unfold sum
  split
  case isTrue => exact hb
  case isFalse =>
    split
    case isTrue => exact ha
    case isFalse =>
      obtain ⟨x, hx⟩ := ha
      obtain ⟨y, hy⟩ := hb
      exact ⟨x + y, eval?_add_eq_some_iff.mpr ⟨x, y, hx, hy, rfl⟩⟩

/-- A difference without its zero terms has a value, if its terms have. -/
theorem exists_eval?_bind_difference (ha : ∃ x, (a.bind values).eval? = some x)
    (hb : ∃ y, (b.bind values).eval? = some y) :
    ∃ z, ((difference a b).bind values).eval? = some z := by
  obtain ⟨y, hy⟩ := hb
  unfold difference
  split
  case isTrue => exact ha
  case isFalse =>
    split
    case isTrue => exact ⟨-y, eval?_neg_eq_some_iff.mpr ⟨y, hy, rfl⟩⟩
    case isFalse =>
      obtain ⟨x, hx⟩ := ha
      exact ⟨x - y, eval?_sub_eq_some_iff.mpr ⟨x, y, hx, hy, rfl⟩⟩

/-! ### How errors are passed on -/

section Errors

variable {x x' y y' z s t : ℝ}

/-- Errors of two terms and of their sum add up. -/
theorem abs_sub_add_le (hx : |x' - x| ≤ s) (hy : |y' - y| ≤ t)
    (hz : |z - (x' + y')| ≤ tolerance) : |z - (x + y)| ≤ s + t + tolerance := by
  have hsplit : z - (x + y) = x' - x + (y' - y) + (z - (x' + y')) := by ring
  calc |z - (x + y)| = |x' - x + (y' - y) + (z - (x' + y'))| := by rw [hsplit]
    _ ≤ |x' - x| + |y' - y| + |z - (x' + y')| := abs_add_three _ _ _
    _ ≤ s + t + tolerance := add_le_add (add_le_add hx hy) hz

/-- In a product the error of either factor is multiplied by the other factor. -/
theorem abs_mul_sub_mul_le (hx : |x' - x| ≤ s) (hy : |y' - y| ≤ t) :
    |x' * y' - x * y| ≤ |x| * t + |y| * s + s * t := by
  have hs : 0 ≤ s := (abs_nonneg _).trans hx
  have hsplit : x' * y' - x * y = x * (y' - y) + y * (x' - x) + (x' - x) * (y' - y) := by ring
  calc |x' * y' - x * y| = |x * (y' - y) + y * (x' - x) + (x' - x) * (y' - y)| := by rw [hsplit]
    _ ≤ |x * (y' - y)| + |y * (x' - x)| + |(x' - x) * (y' - y)| := abs_add_three _ _ _
    _ = |x| * |y' - y| + |y| * |x' - x| + |x' - x| * |y' - y| := by simp only [abs_mul]
    _ ≤ |x| * t + |y| * s + s * t := by gcongr

/-- A divisor farther from zero than its error stays away from zero. -/
theorem abs_divisor_ge (hy : |y' - y| ≤ t) : |y| - t ≤ |y'| := by
  have hback : |y| - |y'| ≤ |y' - y| := by
    rw [abs_sub_comm]
    exact abs_sub_abs_le_abs_sub y y'
  linarith

/-- In a quotient the error of the divisor counts as often as the quotient, and all is divided by
the divisor that is left. -/
theorem abs_div_sub_div_le (hx : |x' - x| ≤ s) (hy : |y' - y| ≤ t) (hy0 : y ≠ 0) (hy'0 : y' ≠ 0) :
    |x' / y' - x / y| ≤ (s + |x / y| * t) / |y'| := by
  have hsplit : x' / y' - x / y = (x' - x - x / y * (y' - y)) / y' := by
    field_simp
    ring
  have hnum : |x' - x - x / y * (y' - y)| ≤ s + |x / y| * t := by
    calc |x' - x - x / y * (y' - y)| ≤ |x' - x| + |x / y * (y' - y)| := abs_sub _ _
      _ = |x' - x| + |x / y| * |y' - y| := by rw [abs_mul]
      _ ≤ s + |x / y| * t := by gcongr
  calc |x' / y' - x / y| = |x' - x - x / y * (y' - y)| / |y'| := by rw [hsplit, abs_div]
    _ ≤ (s + |x / y| * t) / |y'| := by gcongr

end Errors

/-! ### The error of simplifying -/

/-- What is not zero can be divided by. -/
theorem isZero_eq_false_iff : Scalar.isZero x = false ↔ x ≠ 0 := by
  rw [Bool.eq_false_iff, ne_eq, ExactScalar.isZero_iff]

/-- **Within the slack.** Where an angle and its simplification both have a value, the values differ
by at most the slack. -/
theorem abs_sub_le_slack (h : (a.bind values).eval? = some x)
    (hy : (a.simplify.bind values).eval? = some y) : |y - x| ≤ a.slack values := by
  induction a using eval?_induction generalizing x y with
  | value a v hv =>
    rw [bind_of_eval? values hv, hv] at h
    rw [simplify_of_eval? hv] at hy
    cases h
    cases hy
    rw [slack_of_eval? hv, sub_self, abs_zero]
  | symbol name =>
    have hsame : y = x := Option.some.inj (hy.symm.trans h)
    rw [hsame, sub_self, abs_zero]
    exact le_rfl
  | neg a hnone iha =>
    rw [simplify_neg hnone] at hy
    obtain ⟨u, hu, rfl⟩ := eval?_neg_eq_some_iff.mp h
    obtain ⟨u', hu', rfl⟩ := eval?_neg_eq_some_iff.mp hy
    rw [slack_neg hnone, neg_sub_neg, abs_sub_comm]
    exact iha hu hu'
  | add a b hnone iha ihb =>
    rw [simplify_add hnone] at hy
    obtain ⟨u, v, hu, hv, rfl⟩ := eval?_add_eq_some_iff.mp h
    obtain ⟨u', v', hu', hv', hdrop⟩ := near_of_eval?_bind_sum hy
    rw [slack_add hnone]
    exact abs_sub_add_le (iha hu hu') (ihb hv hv') hdrop
  | sub a b hnone iha ihb =>
    rw [simplify_sub hnone] at hy
    obtain ⟨u, v, hu, hv, rfl⟩ := eval?_sub_eq_some_iff.mp h
    obtain ⟨u', v', hu', hv', hdrop⟩ := near_of_eval?_bind_difference hy
    -- a difference is the sum with the negative, whose error is the same
    have hneg : |-v' - -v| ≤ b.slack values := by
      rw [neg_sub_neg, abs_sub_comm]
      exact ihb hv hv'
    rw [slack_sub hnone]
    exact abs_sub_add_le (iha hu hu') hneg hdrop
  | mul a b hnone iha ihb =>
    rw [simplify_mul hnone] at hy
    obtain ⟨u, v, hu, hv, rfl⟩ := eval?_mul_eq_some_iff.mp h
    obtain ⟨u', v', hu', hv', rfl⟩ := eval?_mul_eq_some_iff.mp hy
    rw [slack_mul hnone, boundValue_eq hu, boundValue_eq hv]
    exact abs_mul_sub_mul_le (iha hu hu') (ihb hv hv')
  | div a b hnone iha ihb =>
    rw [simplify_div hnone] at hy
    obtain ⟨u, v, hu, hv, hzero, rfl⟩ := eval?_div_eq_some_iff.mp h
    obtain ⟨u', v', hu', hv', hzero', rfl⟩ := eval?_div_eq_some_iff.mp hy
    rw [slack_div hnone, boundValue_eq hu, boundValue_eq hv, boundValue_eq hv']
    exact abs_div_sub_div_le (iha hu hu') (ihb hv hv') (isZero_eq_false_iff.mp hzero)
      (isZero_eq_false_iff.mp hzero')

/-- **No divisor is lost** that is farther from zero than its slack, so with such divisors an angle
has a value also when it is simplified. -/
theorem exists_eval?_bind_simplify (h : (a.bind values).eval? = some x)
    (hkeep : a.KeepsDivisors values) : ∃ y, (a.simplify.bind values).eval? = some y := by
  induction a using eval?_induction generalizing x with
  | value a v hv =>
    rw [simplify_of_eval? hv]
    exact ⟨v, rfl⟩
  | symbol name => exact ⟨x, h⟩
  | neg a hnone iha =>
    obtain ⟨u, hu, -⟩ := eval?_neg_eq_some_iff.mp h
    obtain ⟨u', hu'⟩ := iha hu (hkeep.of_parts fun p hp => List.mem_cons_of_mem _ hp)
    rw [simplify_neg hnone]
    exact ⟨-u', eval?_neg_eq_some_iff.mpr ⟨u', hu', rfl⟩⟩
  | add a b hnone iha ihb =>
    obtain ⟨u, v, hu, hv, -⟩ := eval?_add_eq_some_iff.mp h
    rw [simplify_add hnone]
    exact exists_eval?_bind_sum (iha hu (hkeep.of_parts fun p => mem_parts_left))
      (ihb hv (hkeep.of_parts fun p => mem_parts_right))
  | sub a b hnone iha ihb =>
    obtain ⟨u, v, hu, hv, -⟩ := eval?_sub_eq_some_iff.mp h
    rw [simplify_sub hnone]
    exact exists_eval?_bind_difference (iha hu (hkeep.of_parts fun p => mem_parts_left))
      (ihb hv (hkeep.of_parts fun p => mem_parts_right))
  | mul a b hnone iha ihb =>
    obtain ⟨u, v, hu, hv, -⟩ := eval?_mul_eq_some_iff.mp h
    obtain ⟨u', hu'⟩ := iha hu (hkeep.of_parts fun p => mem_parts_left)
    obtain ⟨v', hv'⟩ := ihb hv (hkeep.of_parts fun p => mem_parts_right)
    rw [simplify_mul hnone]
    exact ⟨u' * v', eval?_mul_eq_some_iff.mpr ⟨u', v', hu', hv', rfl⟩⟩
  | div a b hnone iha ihb =>
    obtain ⟨u, v, hu, hv, -, -⟩ := eval?_div_eq_some_iff.mp h
    obtain ⟨u', hu'⟩ := iha hu (hkeep.of_parts fun p => mem_parts_left)
    obtain ⟨v', hv'⟩ := ihb hv (hkeep.of_parts fun p => mem_parts_right)
    have hfar : b.slack values < |v| := by
      rw [← boundValue_eq hv]
      exact hkeep a b (self_mem_parts _)
    -- so the error of the divisor does not reach to zero
    have hleft : |v| - b.slack values ≤ |v'| := abs_divisor_ge (abs_sub_le_slack hv hv')
    have hv'0 : v' ≠ 0 := abs_pos.mp ((sub_pos.mpr hfar).trans_le hleft)
    have hzero : Scalar.isZero v' = false := isZero_eq_false_iff.mpr hv'0
    rw [simplify_div hnone]
    exact ⟨u' / v', eval?_div_eq_some_iff.mpr ⟨u', v', hu', hv', hzero, rfl⟩⟩

/-! ### Where nothing is scaled -/

theorem DropsNothing.of_parts (h : b.DropsNothing) (hparts : ∀ p ∈ a.parts, p ∈ b.parts) :
    a.DropsNothing :=
  fun p hp => h p (hparts p hp)

theorem ScalesNothing.of_parts (h : b.ScalesNothing) (hparts : ∀ p ∈ a.parts, p ∈ b.parts) :
    a.ScalesNothing :=
  fun p hp => h p (hparts p hp)

/-- Where no term is dropped there is no slack. -/
theorem slack_of_dropsNothing (h : a.DropsNothing) : a.slack values = 0 := by
  induction a using eval?_induction with
  | value a v hv => exact slack_of_eval? hv
  | symbol name => rfl
  | neg a hv iha =>
    rw [slack_neg hv]
    exact iha (h.of_parts fun p hp => List.mem_cons_of_mem _ hp)
  -- a sum without a value may drop a term
  | add a b hv | sub a b hv => exact absurd hv (h _ (self_mem_parts _) rfl)
  | mul a b hv iha ihb =>
    have ha : a.slack values = 0 := iha (h.of_parts fun p => mem_parts_left)
    have hb : b.slack values = 0 := ihb (h.of_parts fun p => mem_parts_right)
    rw [slack_mul hv, ha, hb]
    ring
  | div a b hv iha ihb =>
    have ha : a.slack values = 0 := iha (h.of_parts fun p => mem_parts_left)
    have hb : b.slack values = 0 := ihb (h.of_parts fun p => mem_parts_right)
    rw [slack_div hv, ha, hb]
    ring

/-- Where nothing is scaled, no divisor has any slack, so none is lost. -/
theorem ScalesNothing.keepsDivisors (hscale : a.ScalesNothing)
    (h : (a.bind values).eval? = some x) : a.KeepsDivisors values := by
  intro u v huv
  have hdrops : (div u v).DropsNothing := hscale _ huv rfl
  have hslack : v.slack values = 0 :=
    slack_of_dropsNothing (hdrops.of_parts fun p => mem_parts_right)
  -- the quotient has a value, so its divisor is not zero
  obtain ⟨w, hw⟩ := exists_eval?_of_mem_parts h huv
  obtain ⟨y, z, -, hz, hzero, -⟩ := eval?_div_eq_some_iff.mp hw
  rw [hslack, boundValue_eq hz]
  exact abs_pos.mpr (isZero_eq_false_iff.mp hzero)

/-- **Where nothing is scaled**, the slack is at most the tolerance for each sum and difference. -/
theorem slack_le_of_scalesNothing (h : a.ScalesNothing) :
    a.slack values ≤ tolerance * a.sums := by
  have hpos : ∀ a : Angle ℝ, 0 ≤ tolerance * a.sums := fun a =>
    mul_nonneg tolerance_pos.le (Nat.cast_nonneg _)
  induction a using eval?_induction with
  | value a v hv =>
    rw [slack_of_eval? hv]
    exact hpos a
  | symbol name => exact hpos _
  | neg a hv iha =>
    rw [slack_neg hv, sums_neg]
    exact iha (h.of_parts fun p hp => List.mem_cons_of_mem _ hp)
  | add a b hv iha ihb =>
    have ha : a.slack values ≤ tolerance * a.sums := iha (h.of_parts fun p => mem_parts_left)
    have hb : b.slack values ≤ tolerance * b.sums := ihb (h.of_parts fun p => mem_parts_right)
    rw [slack_add hv, sums_add]
    push_cast
    linarith
  | sub a b hv iha ihb =>
    have ha : a.slack values ≤ tolerance * a.sums := iha (h.of_parts fun p => mem_parts_left)
    have hb : b.slack values ≤ tolerance * b.sums := ihb (h.of_parts fun p => mem_parts_right)
    rw [slack_sub hv, sums_sub]
    push_cast
    linarith
  | mul a b | div a b =>
    rw [slack_of_dropsNothing (h _ (self_mem_parts _) rfl)]
    exact hpos _

/-- **What simplifying costs.** Let an angle have a value once its symbols are bound. Wherever its
simplification has one too, the two differ by at most the slack, and it has one if every divisor is
farther from zero than its slack. If no product and no quotient has an operand in which a term may
be dropped, it has a value in any case, and the two differ by at most the tolerance for each sum and
difference. -/
theorem simplify_withinSlack (h : (a.bind values).eval? = some x) :
    (∀ y, (a.simplify.bind values).eval? = some y → |y - x| ≤ a.slack values) ∧
    (a.KeepsDivisors values → ∃ y, (a.simplify.bind values).eval? = some y) ∧
    (a.ScalesNothing →
      ∃ y, (a.simplify.bind values).eval? = some y ∧ |y - x| ≤ tolerance * a.sums) := by
  refine ⟨fun y => abs_sub_le_slack h, exists_eval?_bind_simplify h, fun hscale => ?_⟩
  obtain ⟨y, hy⟩ := exists_eval?_bind_simplify h (hscale.keepsDivisors h)
  exact ⟨y, hy, (abs_sub_le_slack h hy).trans (slack_le_of_scalesNothing hscale)⟩

/-! ### Angles with a small term -/

/-- A symbol and a term below the tolerance. -/
noncomputable def smallTerm : Angle ℝ := .add (.symbol "theta") (.constant 1e-13)

/-- The sum as a divisor. -/
noncomputable def smallTermBelow : Angle ℝ := .div (.constant 1) smallTerm

/-- The sum with a large factor. -/
noncomputable def smallTermScaled : Angle ℝ := .mul (.constant 1000000) smallTerm

/-- The sum with a third of the symbol. -/
noncomputable def smallTermBeside : Angle ℝ :=
  .add (.div (.symbol "theta") (.constant 3)) (.constant 1e-13)

theorem smallTerm_bound (x : ℝ) :
    (smallTerm.bind fun _ => some x).eval? = some (x + 1e-13) := rfl

theorem isZero_small : (Angle.constant 1e-13 : Angle ℝ).isZero = true := by
  refine isZero_eq_true_iff.mpr ⟨1e-13, rfl, negligible_iff.mpr ?_⟩
  unfold tolerance
  norm_num

theorem simplify_smallTerm : smallTerm.simplify = .symbol "theta" := by
  have hvalue : smallTerm.eval? = none := rfl
  have hsymbol : (Angle.symbol "theta" : Angle ℝ).isZero = false := rfl
  have hsmall : (Angle.constant 1e-13 : Angle ℝ).isZero = true := isZero_small
  rw [smallTerm, simplify_add hvalue]
  change sum (.symbol "theta") (.constant 1e-13) = _
  rw [sum, hsymbol, hsmall]
  rfl

/-- A divisor of about one loses a small term without harm, and beside a quotient that is kept the
term costs no more than the tolerance. -/
theorem simplify_withinSlack_smallTerm :
    (∃ x y, (smallTermBelow.bind fun _ => some 1).eval? = some x ∧
      smallTermBelow.KeepsDivisors (fun _ => some 1) ∧
      (smallTermBelow.simplify.bind fun _ => some 1).eval? = some y ∧
      |y - x| ≤ smallTermBelow.slack fun _ => some 1) ∧
    ∃ x y, (smallTermBeside.bind fun _ => some 1).eval? = some x ∧
      smallTermBeside.ScalesNothing ∧
      (smallTermBeside.simplify.bind fun _ => some 1).eval? = some y ∧
      |y - x| ≤ tolerance * smallTermBeside.sums := by
  constructor
  · have hdivisor : Scalar.isZero (1 + 1e-13 : ℝ) = false := isZero_eq_false_iff.mpr (by norm_num)
    have hx : (smallTermBelow.bind fun _ => some 1).eval? = some (1 / (1 + 1e-13)) :=
      eval?_div_eq_some_iff.mpr ⟨1, 1 + 1e-13, rfl, smallTerm_bound 1, hdivisor, rfl⟩
    have hkeep : smallTermBelow.KeepsDivisors fun _ => some 1 := by
      intro u v huv
      -- there is one quotient, and the sum is its divisor
      obtain ⟨-, rfl⟩ : u = .constant 1 ∧ v = smallTerm := by
        simpa [smallTermBelow, smallTerm, parts] using huv
      have hslack : smallTerm.slack (fun _ => some 1) = 0 + 0 + tolerance := slack_add rfl
      rw [hslack, boundValue_eq (smallTerm_bound 1), tolerance]
      norm_num
    obtain ⟨hnear, hvalue, -⟩ := simplify_withinSlack hx
    obtain ⟨y, hy⟩ := hvalue hkeep
    exact ⟨_, y, hx, hkeep, hy, hnear y hy⟩
  · have hdivisor : Scalar.isZero (3 : ℝ) = false := isZero_eq_false_iff.mpr (by norm_num)
    have hthird : ((Angle.div (.symbol "theta") (.constant 3)).bind fun _ => some (1 : ℝ)).eval?
        = some (1 / 3) := eval?_div_eq_some_iff.mpr ⟨1, 3, rfl, rfl, hdivisor, rfl⟩
    have hx : (smallTermBeside.bind fun _ => some 1).eval? = some (1 / 3 + 1e-13) :=
      eval?_add_eq_some_iff.mpr ⟨1 / 3, 1e-13, hthird, rfl, rfl⟩
    have hdrops : (Angle.div (.symbol "theta") (.constant 3) : Angle ℝ).DropsNothing := by
      simp [DropsNothing, parts, isSum]
    have hscale : smallTermBeside.ScalesNothing := by
      simpa [ScalesNothing, smallTermBeside, parts, isScaling] using hdrops
    obtain ⟨-, -, hvalue⟩ := simplify_withinSlack hx
    obtain ⟨y, hy, hnear⟩ := hvalue hscale
    exact ⟨_, y, hx, hscale, hy, hnear⟩

/-- **The tolerance is exceeded** where a sum is scaled. With zero for the symbol, a million times
the sum is off by a hundred thousand times the tolerance when it is simplified, and a quotient by the
sum has no value any more. -/
theorem tolerance_exceeded :
    (∃ x y, (smallTermScaled.bind fun _ => some 0).eval? = some x ∧
      (smallTermScaled.simplify.bind fun _ => some 0).eval? = some y ∧
      tolerance * smallTermScaled.sums < |y - x|) ∧
    ∃ x, (smallTermBelow.bind fun _ => some 0).eval? = some x ∧
      (smallTermBelow.simplify.bind fun _ => some 0).eval? = none := by
  constructor
  · have hsimplify : smallTermScaled.simplify = .mul (.constant 1000000) (.symbol "theta") := by
      rw [smallTermScaled, simplify_mul rfl, simplify_smallTerm]
      rfl
    refine ⟨1000000 * (0 + 1e-13), 1000000 * 0, rfl, ?_, ?_⟩
    · rw [hsimplify]
      rfl
    · have hsums : smallTermScaled.sums = 1 := rfl
      rw [hsums, tolerance]
      norm_num [abs_of_neg]
  · have hsimplify : smallTermBelow.simplify = .div (.constant 1) (.symbol "theta") := by
      rw [smallTermBelow, simplify_div rfl, simplify_smallTerm]
      rfl
    have hdivisor : Scalar.isZero (0 + 1e-13 : ℝ) = false := isZero_eq_false_iff.mpr (by norm_num)
    refine ⟨1 / (0 + 1e-13), ?_, ?_⟩
    · exact eval?_div_eq_some_iff.mpr ⟨1, 0 + 1e-13, rfl, smallTerm_bound 0, hdivisor, rfl⟩
    · have hzero : Scalar.isZero (0 : ℝ) = true := (ExactScalar.isZero_iff 0).mpr rfl
      rw [hsimplify]
      exact eval?_div_eq_none_iff.mpr (.inr (.inr ⟨0, rfl, hzero⟩))

end CircuitDispatch.Angle
