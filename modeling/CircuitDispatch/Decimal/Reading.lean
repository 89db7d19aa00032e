/-!
# Reading decimals

`read?` gives the double nearest to `digits · 10 ^ exponent`. A magnitude
beyond the doubles has none.
-/

namespace CircuitDispatch.Decimal

/-- The double nearest to `± digits · 10 ^ exponent`, unless it is out of range. Exponents that
settle the answer by themselves are not raised to a power. -/
def read? (isNegative : Bool) (digits : Nat) (exponent : Int) : Option Float :=
  let places : Int := (toString digits).length
  let magnitude : Option Float :=
    if digits = 0 ∨ places + exponent < -400 then some 0
    else if 400 < places + exponent then none
    else
      let x := Float.ofScientific digits (exponent < 0) exponent.natAbs
      if x.isFinite then some x else none
  magnitude.map fun x => if isNegative then -x else x

/-- The double nearest to an integer. -/
def ofInt (i : Int) : Float :=
  let x := Float.ofScientific i.natAbs false 0
  if i < 0 then -x else x

end CircuitDispatch.Decimal
