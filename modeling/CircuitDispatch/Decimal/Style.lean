import CircuitDispatch.Decimal.Shortest

/-!
# Laying out a number

A `Style` is the record of decisions that a text format makes about numbers;
`Style.render` writes a double in a style, with the digits of
`Binary.shortest`.
-/

namespace CircuitDispatch.Decimal

/-- How a format writes its numbers. -/
structure Style where
  /-- Which of two equally near shortest decimals is written. -/
  tie : Tie
  /-- The places of the decimal point, counted from the first digit, at which no exponent is
  written; `none` if never. -/
  positional : Option (Int × Int)
  /-- Whether a whole number ends in `.0`. -/
  keepPoint : Bool
  /-- Whether a positive exponent has a sign. -/
  plus : Bool
  deriving Repr

/-- So many zeros. -/
def zeros (n : Nat) : String := String.ofList (List.replicate n '0')

namespace Style

/-- Digits with the decimal point after `point` of them, without an exponent. -/
def positionally (s : Style) (digits : List Char) (point : Int) : String :=
  if point ≤ 0 then "0." ++ zeros (-point).toNat ++ String.ofList digits
  else
    let n := point.toNat
    if digits.length ≤ n then
      String.ofList digits ++ zeros (n - digits.length) ++ (if s.keepPoint then ".0" else "")
    else String.ofList (digits.take n) ++ "." ++ String.ofList (digits.drop n)

/-- Digits with the decimal point after the first, and an exponent. -/
def exponentially (s : Style) (digits : List Char) (point : Int) : String :=
  let fraction := digits.drop 1
  let e := point - 1
  String.ofList (digits.take 1)
    ++ (if fraction.isEmpty then "" else "." ++ String.ofList fraction)
    ++ (if e < 0 then "e-" else if s.plus then "e+" else "e") ++ toString e.natAbs

/-- A positive decimal. -/
def digits (s : Style) (d : Scientific) : String :=
  let text := (toString d.digits).toList
  let point : Int := text.length + d.exponent
  let inPlace := match s.positional with
    | none => true
    | some (low, high) => low ≤ point ∧ point ≤ high
  if inPlace then s.positionally text point else s.exponentially text point

/-- The text of a double. -/
def render (s : Style) (x : Float) : String :=
  if x.isNaN then "NaN"
  else
    let sign := if x.toBits.toNat / Nat.pow 2 63 = 1 then "-" else ""
    if x.isInf then sign ++ "inf"
    else if x == 0 then sign ++ (if s.keepPoint then "0.0" else "0")
    else sign ++ s.digits ((Binary.ofFloat x).shortest s.tie)

/-- Digits alone: never an exponent, no point in a whole number, and of two equally near decimals
the greater. -/
def plain : Style := ⟨.up, none, false, false⟩

end Style

end CircuitDispatch.Decimal
