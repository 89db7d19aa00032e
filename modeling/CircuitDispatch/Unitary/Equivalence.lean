import CircuitDispatch.Unitary.OfCircuit

/-!
# Equality up to a phase

Two matrices are equivalent when one is the other times a phase. The phase is
read off at the entry of greatest size, and everything is compared within a
tolerance.
-/

namespace CircuitDispatch

/-- Scalars that can be compared in size. -/
class Measured (R : Type) extends Trigonometric R where
  /-- The size. -/
  abs : R → R
  /-- The length of the hypotenuse over two legs. -/
  hypot : R → R → R
  /-- Whether a scalar is smaller than another. -/
  less : R → R → Bool

/-- The length of the hypotenuse, without overflow on the way. -/
def hypotenuse (x y : Float) : Float :=
  let x := x.abs
  let y := y.abs
  let big := if x < y then y else x
  if x.isInf || y.isInf then 1 / 0
  else if 1e-140 < big && big < 1e140 then (x * x + y * y).sqrt
  else if big == 0 then big
  else big * ((x / big) * (x / big) + (y / big) * (y / big)).sqrt

instance : Measured Float where
  abs := Float.abs
  hypot := hypotenuse
  less x y := x < y

namespace Unitary

variable {R : Type} [Measured R] {n m : Nat}

/-- The size of an amplitude. -/
def size (a : Amplitude R) : R := Measured.hypot a.re a.im

/-- The pair whose first part is greatest in size, the last one of several. -/
def pivot? : List (Amplitude R × Amplitude R) → Option (Amplitude R × Amplitude R)
  | [] => none
  | p :: rest => some (rest.foldl (fun best q =>
      if Measured.less (size q.1) (size best.1) then best else q) p)

/-- Whether the second matrix is the first times a phase, within a tolerance. -/
def equivalentUpToPhase (a : Matrix R n) (b : Matrix R m) (tolerance : R) : Bool :=
  if n ≠ m then false
  else
    let pairs := a.toList.zip b.toList
    match pivot? pairs with
    | none => true
    | some (p, q) =>
      if Measured.less (size p) tolerance then false
      else
        let phase := q / p
        if Measured.less tolerance (Measured.abs (size phase - Scalar.ofNat 1)) then false
        else pairs.all fun (x, y) => Measured.less (size (x * phase - y)) tolerance

end Unitary

end CircuitDispatch
