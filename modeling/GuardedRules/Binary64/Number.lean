import GuardedRules.Binary64
import Mathlib.Algebra.Group.Nat.Defs

/-!
# The number behind a bit pattern

Every finite double-precision number is a whole multiple of the smallest positive one, two
to the power of minus 1074, so an integer tells which number it is. The two zeros are one
number, the two infinities are two, and a NaN is no number at all.
-/

namespace GuardedRules.Binary64

/-- The numbers that bit patterns stand for. -/
inductive Number where
  /-- So many times the smallest positive number. -/
  | finite (units : Int)
  | infinite (negative : Bool)
deriving DecidableEq

/-- A finite magnitude in units of the smallest positive number. -/
def magnitude (x : Binary64) : Nat := x.significand * 2 ^ (x.scale + 1074).toNat

/-- The number that a bit pattern stands for, if it stands for one. -/
def number? (x : Binary64) : Option Number :=
  if x.isNaN then none
  else if x.isInfinite then some (.infinite x.isNegative)
  else some (.finite (if x.isNegative then -x.magnitude else x.magnitude))

end GuardedRules.Binary64
