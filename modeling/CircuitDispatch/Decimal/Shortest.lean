/-!
# Shortest decimals

Every positive double stands for the interval of reals that round to it. This
module finds the decimal with the fewest digits in that interval, and among
those the one nearest to the double. It works on the binary fraction
`mantissa · 2 ^ exponent` in exact integer arithmetic.

The search looks at one digit, two digits, and so on up to seventeen. On each
grid only the two neighbours of the value can be nearest, so these two are
tested.
-/

namespace CircuitDispatch.Decimal

/-- The positive number `mantissa · 2 ^ exponent`, as a double stores it. -/
structure Binary where
  mantissa : Nat
  exponent : Int
  /-- Whether the next double below is only half as far away as the one above. -/
  narrowBelow : Bool
  deriving DecidableEq, Repr

/-- The number `digits · 10 ^ exponent`. -/
structure Scientific where
  digits : Nat
  exponent : Int
  deriving DecidableEq, Repr

/-- Which of two equally near decimals is taken. -/
inductive Tie where
  /-- The greater one. -/
  | up
  /-- The one with an even last digit. -/
  | even
  deriving DecidableEq, Repr

/-- The magnitude of a finite double other than zero. -/
def Binary.ofFloat (x : Float) : Binary :=
  let bits : Nat := x.toBits.toNat
  let field : Nat := bits / Nat.pow 2 52 % Nat.pow 2 11
  let fraction : Nat := bits % Nat.pow 2 52
  if field = 0 then ⟨fraction, -1074, false⟩
  else ⟨fraction + Nat.pow 2 52, Int.ofNat field - 1075, fraction = 0 ∧ 1 < field⟩

namespace Binary

/-- `n · 2 ^ e` and `c · 10 ^ k`, multiplied by the least powers that make both natural. -/
def scale (n : Nat) (e : Int) (c : Nat) (k : Int) : Nat × Nat :=
  (n * Nat.pow 2 e.toNat * Nat.pow 10 (-k).toNat, c * Nat.pow 10 k.toNat * Nat.pow 2 (-e).toNat)

/-- Whether the value is below `10 ^ k`. -/
def below (b : Binary) (k : Int) : Bool :=
  let (v, t) := scale b.mantissa b.exponent 1 k
  v < t

/-- Whether a decimal rounds to this number. The ends of the interval do exactly when the mantissa
is even. -/
def admits (b : Binary) (d : Scientific) : Bool :=
  let quarter := b.exponent - 2
  let (low, v) := scale (4 * b.mantissa - (if b.narrowBelow then 1 else 2)) quarter
    d.digits d.exponent
  let (high, _) := scale (4 * b.mantissa + 2) quarter d.digits d.exponent
  if b.mantissa % 2 = 0 then low ≤ v ∧ v ≤ high else low < v ∧ v < high

/-- The least `k` from `start` on, within `fuel` steps, with the value below `10 ^ k`. -/
def magnitudeFrom (b : Binary) (start : Int) : Nat → Int
  | 0 => start
  | fuel + 1 => if b.below start then start else b.magnitudeFrom (start + 1) fuel

/-- The least `k` with the value below `10 ^ k`. The binary logarithm gives a first guess from
below. -/
def magnitude (b : Binary) : Int :=
  b.magnitudeFrom ((Int.ofNat b.mantissa.log2 + b.exponent) * 30103 / 100000 - 1) 6

/-- The nearest decimal on the grid `10 ^ k` that rounds to this number. -/
def onGrid (b : Binary) (tie : Tie) (k : Int) : Option Scientific :=
  let (v, t) := scale b.mantissa b.exponent 1 k
  let lower : Nat := v / t
  let down := b.admits ⟨lower, k⟩
  let up := b.admits ⟨lower + 1, k⟩
  let upNearer :=
    match compare (2 * v) ((2 * lower + 1) * t) with
    | .lt => false
    | .gt => true
    | .eq => match tie with
      | .up => true
      | .even => lower % 2 = 1
  if down && up then some ⟨if upNearer then lower + 1 else lower, k⟩
  else if down then some ⟨lower, k⟩
  else if up then some ⟨lower + 1, k⟩
  else none

/-- The value itself as a decimal. -/
def exact (b : Binary) : Scientific :=
  if 0 ≤ b.exponent then ⟨b.mantissa * Nat.pow 2 b.exponent.toNat, 0⟩
  else ⟨b.mantissa * Nat.pow 5 (-b.exponent).toNat, b.exponent⟩

end Binary

/-- Moves trailing zeros of the digits into the exponent, at most `fuel` of them. -/
def Scientific.stripFrom (d : Scientific) : Nat → Scientific
  | 0 => d
  | fuel + 1 =>
    if d.digits ≠ 0 ∧ d.digits % 10 = 0 then
      (⟨d.digits / 10, d.exponent + 1⟩ : Scientific).stripFrom fuel
    else d

/-- The shortest decimal that rounds to this number, the nearest of those, without trailing
zeros. -/
def Binary.shortest (b : Binary) (tie : Tie) : Scientific :=
  let k := b.magnitude
  let found := (List.range 17).findSome? fun (i : Nat) => b.onGrid tie (k - 1 - i)
  (found.getD b.exact).stripFrom 20

end CircuitDispatch.Decimal
