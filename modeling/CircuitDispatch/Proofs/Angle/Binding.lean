import CircuitDispatch.Proofs.Scalar.Exact
import CircuitDispatch.Proofs.Angle.Values

/-!
# Binding symbols early or late

Symbols can be bound in several steps, and the first number for a symbol counts
(`Angle.bind_bind_eq`). A symbol stays free exactly if it is not bound (`Angle.mem_symbols_bind`).

Angles can be simplified between the steps. An angle that has a value has no symbols, so no binding
changes it (`Angle.bind_of_eval?`). Hence, where only zero is negligible, what simplifying drops is
zero under every binding, and an angle and its simplification have the same values
(`Angle.eval?_bind_simplify`).

`Angle.Agree values` relates two angles that cannot be told apart once the symbols of `values` are
bound: whatever is bound besides, both have the same value or none. An angle agrees with itself with
the symbols bound already (`Angle.agree_bind`), and sums and differences of angles that agree,
simplified or not, agree.
-/

namespace CircuitDispatch

/-- Whether zero is negligible and nothing else is. -/
def ExactZeroTest (R : Type) [ExactScalar R] : Prop := ∀ x : R, Scalar.negligible x = true ↔ x = 0

/-- The real numbers without tolerance. -/
def ExactReal : Type := ℝ

noncomputable instance : ExactScalar ExactReal :=
  let reals : ExactScalar ℝ := inferInstance
  let exact : ExactScalar ℝ := { reals with negligible := reals.isZero }
  exact

theorem exactZeroTest_exactReal : ExactZeroTest ExactReal :=
  ExactScalar.isZero_iff (R := ℝ)

namespace Angle

variable {R : Type}

/-- Whether one binding gives every number that another one gives. -/
def Extends (wider values : String → Option R) : Prop :=
  ∀ name x, values name = some x → wider name = some x

/-- **Binding in two steps.** The second binding counts where the first one has no number. -/
theorem bind_bind_eq (first second : String → Option R) (a : Angle R) :
    (a.bind first).bind second = a.bind fun name => (first name).or (second name) := by
  induction a with
  | constant | pi => rfl
  | symbol name =>
    simp only [bind]
    cases first name with
    | none => rfl
    | some x => rfl
  | neg a iha => simp only [bind, iha]
  | add a b iha ihb | sub a b iha ihb | mul a b iha ihb | div a b iha ihb =>
    simp only [bind, iha, ihb]

/-- A binding that extends another one may as well be used from the start. -/
theorem bind_bind {wider values : String → Option R} (h : Extends wider values) (a : Angle R) :
    (a.bind values).bind wider = a.bind wider := by
  have hwider : (fun name => (values name).or (wider name)) = wider := by
    funext name
    cases hvalue : values name with
    | none => rfl
    | some x => exact (h name x hvalue).symm
  rw [bind_bind_eq, hwider]

/-- **What stays free.** Of the symbols of an angle those are left that are not bound. -/
theorem mem_symbols_bind {values : String → Option R} {a : Angle R} {name : String} :
    name ∈ (a.bind values).symbols ↔ name ∈ a.symbols ∧ values name = none := by
  simp only [mem_symbols]
  induction a with
  | constant | pi => simp [bind, occurrences]
  | symbol other =>
    simp only [bind]
    cases hvalue : values other with
    | none => simp +contextual [occurrences, hvalue]
    | some x => simp +contextual [occurrences, hvalue]
  | neg a iha => simpa only [bind, occurrences] using iha
  | add a b iha ihb | sub a b iha ihb | mul a b iha ihb | div a b iha ihb =>
    simp only [bind, occurrences, List.mem_append, iha, ihb, or_and_right]

/-- An angle is symbolic if it has a symbol. -/
theorem isSymbolic_eq_true_iff {a : Angle R} :
    a.isSymbolic = true ↔ ∃ name, name ∈ a.symbols := by
  simp only [mem_symbols]
  induction a with
  | constant | pi | symbol => simp [isSymbolic, occurrences]
  | neg a iha => simpa only [isSymbolic, occurrences] using iha
  | add a b iha ihb | sub a b iha ihb | mul a b iha ihb | div a b iha ihb =>
    simp only [isSymbolic, occurrences, Bool.or_eq_true, iha, ihb, List.mem_append, exists_or]

/-- **An angle with a value has no symbols**, so binding leaves it alone. -/
theorem bind_of_eval? [Scalar R] {a : Angle R} {v : R} (values : String → Option R)
    (h : a.eval? = some v) : a.bind values = a := by
  induction a generalizing v with
  | constant | pi => rfl
  | symbol name => cases h
  | neg a iha =>
    obtain ⟨x, hx, -⟩ := Option.map_eq_some_iff.mp h
    rw [bind, iha hx]
  | add a b iha ihb | sub a b iha ihb | mul a b iha ihb =>
    -- both operands have values
    obtain ⟨x, hx, hrest⟩ := Option.bind_eq_some_iff.mp h
    obtain ⟨y, hy, -⟩ := Option.bind_eq_some_iff.mp hrest
    rw [bind, iha hx, ihb hy]
  | div a b iha ihb =>
    -- the divisor is computed first
    obtain ⟨y, hy, hrest⟩ := Option.bind_eq_some_iff.mp h
    split at hrest
    · cases hrest
    · obtain ⟨x, hx, -⟩ := Option.bind_eq_some_iff.mp hrest
      rw [bind, iha hx, ihb hy]

/-! ### Simplifying under a binding -/

section Simplify

variable [ExactScalar R] {values : String → Option R}

/-- An angle is dropped only if its value is zero. -/
theorem eval?_of_isZero (hexact : ExactZeroTest R) {a : Angle R} (h : a.isZero = true) :
    a.eval? = some 0 := by
  unfold isZero at h
  split at h
  · next v hv =>
    have hzero : v = 0 := (hexact v).mp h
    rw [hv, hzero]
  · cases h

/-- An angle that is dropped has the value zero under every binding. -/
theorem eval?_bind_of_isZero (hexact : ExactZeroTest R) {a : Angle R} (h : a.isZero = true) :
    (a.bind values).eval? = some 0 := by
  have hzero : a.eval? = some 0 := eval?_of_isZero hexact h
  rw [bind_of_eval? values hzero]
  exact hzero

theorem eval?_bind_add (a b : Angle R) : ((add a b).bind values).eval?
    = (a.bind values).eval?.bind fun x => (b.bind values).eval?.map (x + ·) := by
  change ((a.bind values).eval?.bind fun x => (b.bind values).eval?.bind fun y => some (x + y)) = _
  simp only [Option.map_eq_bind, Function.comp_def]

theorem eval?_bind_sub (a b : Angle R) : ((sub a b).bind values).eval?
    = (a.bind values).eval?.bind fun x => (b.bind values).eval?.map (x - ·) := by
  change ((a.bind values).eval?.bind fun x => (b.bind values).eval?.bind fun y => some (x - y)) = _
  simp only [Option.map_eq_bind, Function.comp_def]

/-- A sum without its zero terms has the value of the sum. -/
theorem eval?_bind_sum (hexact : ExactZeroTest R) (a b : Angle R) :
    ((sum a b).bind values).eval? = ((add a b).bind values).eval? := by
  unfold sum
  split
  · next hzero =>
    rw [eval?_bind_add, eval?_bind_of_isZero hexact hzero]
    simp
  · split
    · next hzero =>
      rw [eval?_bind_add, eval?_bind_of_isZero hexact hzero]
      simp
    · rfl

/-- A difference without its zero terms has the value of the difference. -/
theorem eval?_bind_difference (hexact : ExactZeroTest R) (a b : Angle R) :
    ((difference a b).bind values).eval? = ((sub a b).bind values).eval? := by
  unfold difference
  split
  · next hzero =>
    rw [eval?_bind_sub, eval?_bind_of_isZero hexact hzero]
    simp
  · split
    · next hzero =>
      -- what is left is the negative of the second term
      rw [eval?_bind_sub, eval?_bind_of_isZero hexact hzero]
      simp only [Option.bind_some, zero_sub]
      rfl
    · rfl

/-- **Simplifying keeps the value** under every binding. -/
theorem eval?_bind_simplify (hexact : ExactZeroTest R) (a : Angle R) :
    (a.simplify.bind values).eval? = (a.bind values).eval? := by
  induction a using eval?_induction with
  | value a v hv =>
    rw [simplify_of_eval? hv, bind_of_eval? values hv, hv]
    rfl
  | symbol name => rfl
  | neg a hv iha =>
    rw [simplify_neg hv]
    simp only [bind, eval?, iha]
  | add a b hv iha ihb =>
    rw [simplify_add hv, eval?_bind_sum hexact, eval?_bind_add, iha, ihb, ← eval?_bind_add]
  | sub a b hv iha ihb =>
    rw [simplify_sub hv, eval?_bind_difference hexact, eval?_bind_sub, iha, ihb, ← eval?_bind_sub]
  | mul a b hv iha ihb =>
    rw [simplify_mul hv]
    simp only [bind, eval?, iha, ihb]
  | div a b hv iha ihb =>
    rw [simplify_div hv]
    simp only [bind, eval?, iha, ihb]

end Simplify

/-! ### Angles that agree -/

/-- Two angles that have the same value, or both none, under every binding that extends
`values`. -/
def Agree [Scalar R] (values : String → Option R) (a b : Angle R) : Prop :=
  ∀ wider, Extends wider values → (a.bind wider).eval? = (b.bind wider).eval?

section Agree

variable {values : String → Option R} {a a' b b' : Angle R}

theorem Agree.refl [Scalar R] (values : String → Option R) (a : Angle R) : Agree values a a :=
  fun _ _ => rfl

theorem Agree.symm [Scalar R] (h : Agree values a b) : Agree values b a :=
  fun wider hwider => (h wider hwider).symm

theorem Agree.trans [Scalar R] (hab : Agree values a b) (hbb' : Agree values b b') :
    Agree values a b' :=
  fun wider hwider => (hab wider hwider).trans (hbb' wider hwider)

/-- **Early or late**: an angle agrees with itself with the symbols bound already. -/
theorem agree_bind [Scalar R] (values : String → Option R) (a : Angle R) :
    Agree values a (a.bind values) := by
  intro wider hwider
  rw [bind_bind hwider]

variable [ExactScalar R]

/-- Simplified sums of angles that agree, agree. -/
theorem Agree.simplify_add (hexact : ExactZeroTest R) (ha : Agree values a a')
    (hb : Agree values b b') : Agree values (add a b).simplify (add a' b').simplify := by
  intro wider hwider
  rw [eval?_bind_simplify hexact, eval?_bind_simplify hexact, eval?_bind_add, eval?_bind_add,
    ha wider hwider, hb wider hwider]

/-- Simplified differences of angles that agree, agree. -/
theorem Agree.simplify_sub (hexact : ExactZeroTest R) (ha : Agree values a a')
    (hb : Agree values b b') : Agree values (sub a b).simplify (sub a' b').simplify := by
  intro wider hwider
  rw [eval?_bind_simplify hexact, eval?_bind_simplify hexact, eval?_bind_sub, eval?_bind_sub,
    ha wider hwider, hb wider hwider]

/-- What is dropped agrees with zero. -/
theorem agree_zero_of_isZero (hexact : ExactZeroTest R) (h : a.isZero = true) :
    Agree values a zero := by
  intro wider _
  rw [eval?_bind_of_isZero hexact h]
  simp only [zero, bind, eval?, ExactScalar.ofNat_zero]

end Agree

end Angle

end CircuitDispatch
