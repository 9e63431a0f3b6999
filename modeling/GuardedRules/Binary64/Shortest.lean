import GuardedRules.Binary64

/-!
# Fewest decimal digits

The decimal that stands for a double-precision number: of all decimals that read
back as the number it has the fewest digits, and of those it is the nearest.

Every decimal between the midpoints to the two neighbouring numbers reads back as
the number; the midpoints themselves do when the significand is even. The search
walks the decimal grids from coarse to fine and takes the first one that has a
point in that interval. On a grid only the two points around the number matter:
any other point of the interval has one of them between it and the number.
-/

namespace GuardedRules

/-- The decimal `coefficient * 10 ^ exponent`. -/
structure Decimal where
  coefficient : Nat
  exponent : Int
deriving DecidableEq

namespace Binary64

/-- The magnitudes that read back as a number, in quarters of the last place of its
significand. The ends belong to them when `closed`. -/
structure Interval where
  low : Nat
  middle : Nat
  high : Nat
  closed : Bool

/-- The interval of a finite number that is not zero. -/
def readBack (x : Binary64) : Interval where
  low := 4 * x.significand - if x.isBinadeStart then 1 else 2
  middle := 4 * x.significand
  high := 4 * x.significand + 2
  closed := x.significand % 2 == 0

/-- Whether a point lies in the interval, when a quarter of the last place counts `unit`. -/
def Interval.holds (range : Interval) (unit point : Nat) : Bool :=
  if range.closed then range.low * unit ≤ point && point ≤ range.high * unit
  else range.low * unit < point && point < range.high * unit

/-- The multiple of `10 ^ exponent` that stands for the number, if one lies in its
interval; the nearer of two, and of two equally near ones the larger. -/
def onGrid (x : Binary64) (exponent : Int) : Option Decimal :=
  let range := x.readBack
  let unit := Nat.pow 2 (x.scale - 2).toNat * Nat.pow 10 (-exponent).toNat
  let step := Nat.pow 2 (2 - x.scale).toNat * Nat.pow 10 exponent.toNat
  let middle := range.middle * unit
  let below := middle / step
  let lower := range.holds unit (below * step)
  let upper := range.holds unit ((below + 1) * step)
  if lower && upper then
    if 2 * (middle - below * step) < step then some ⟨below, exponent⟩
    else some ⟨below + 1, exponent⟩
  else if lower then some ⟨below, exponent⟩
  else if upper then some ⟨below + 1, exponent⟩
  else none

/-- An exponent whose power of ten exceeds the number: a significand stays below
`2 ^ 53`, and `30103 / 100000` is just above the decimal logarithm of two. -/
def coarsestGrid (x : Binary64) : Int := (x.scale + 54) * 30103 / 100000 + 1

/-- The exponents to try, from coarse to fine. Seventeen digits always suffice. -/
def gridExponents (x : Binary64) : List Int :=
  (List.range 20).map fun (i : Nat) => x.coarsestGrid - (i : Int)

/-- The fewest digits that read back as the magnitude of a finite number. -/
def shortest (x : Binary64) : Decimal :=
  if x.isZero then ⟨0, 0⟩
  else (x.gridExponents.findSome? x.onGrid).getD ⟨0, 0⟩

end Binary64

end GuardedRules
