import GuardedRules.Binary64.Shortest

/-!
# Written numbers

Two ways to write a double-precision number. The plain text never has an exponent
and writes a whole number in full. The structural text keeps to the fewest digits
and leaves positional notation for very large and very small numbers.
-/

namespace GuardedRules

namespace Decimal

def digits (d : Decimal) : List Char := Nat.toDigits 10 d.coefficient

/-- The power of ten of the leading digit. -/
def magnitude (d : Decimal) : Int := d.exponent + d.digits.length - 1

/-- The decimal without an exponent, and without a point when it is whole. -/
def positional (d : Decimal) : String :=
  if 0 ≤ d.exponent then
    String.ofList (d.digits ++ List.replicate d.exponent.toNat '0')
  else
    let places := (-d.exponent).toNat
    let padded := d.digits.leftpad (places + 1) '0'
    let whole := padded.length - places
    String.ofList (padded.take whole ++ '.' :: padded.drop whole)

/-- One digit, the other digits behind a point if there are any, and the exponent. -/
def scientific (d : Decimal) : String :=
  let mantissa := match d.digits with
    | [] => []
    | [digit] => [digit]
    | digit :: rest => digit :: '.' :: rest
  String.ofList mantissa ++ "e" ++ toString d.magnitude

/-- The decimal without an exponent and always with a point. -/
def pointed (d : Decimal) : String :=
  if 0 ≤ d.exponent then d.positional ++ ".0" else d.positional

end Decimal

namespace Binary64

/-- Writes the sign, and `finite` for the magnitude of a number that has one. -/
def withSign (x : Binary64) (finite : String) : String :=
  if x.isNaN then "NaN"
  else (if x.isNegative then "-" else "") ++ if x.isInfinite then "inf" else finite

/-- The plain text: a whole number in full with `.0`, any other number in the fewest digits. -/
def text (x : Binary64) : String :=
  x.withSign <|
    if x.isWhole then toString (x.numerator / x.denominator) ++ ".0"
    else x.shortest.positional

/-- The structural text: the fewest digits, positional while the leading digit stands
between the fourth decimal place and the sixteenth whole place. -/
def structuralText (x : Binary64) : String :=
  let d := x.shortest
  x.withSign <|
    if -4 ≤ d.magnitude ∧ d.magnitude < 16 then d.pointed else d.scientific

end Binary64

end GuardedRules
