/-!
# Double-precision numbers

A number is its 64-bit pattern: a sign, eleven exponent bits and fifty-two
fraction bits. Comparison and reading follow IEEE 754. No arithmetic is offered:
numbers are compared and written, never computed.
-/

namespace GuardedRules

/-- A double-precision number, held as its bit pattern. -/
structure Binary64 where
  bits : UInt64
deriving DecidableEq, Inhabited

namespace Binary64

/-- The weight of the lowest exponent bit: two to the fifty-second. -/
def fractionSize : Nat := 0x10000000000000

def isNegative (x : Binary64) : Bool := 0x8000000000000000 ≤ x.bits.toNat

def exponentField (x : Binary64) : Nat := x.bits.toNat / fractionSize % 2048

def fractionField (x : Binary64) : Nat := x.bits.toNat % fractionSize

def isNaN (x : Binary64) : Bool := x.exponentField == 2047 && x.fractionField != 0

def isInfinite (x : Binary64) : Bool := x.exponentField == 2047 && x.fractionField == 0

def isZero (x : Binary64) : Bool := x.exponentField == 0 && x.fractionField == 0

/-- IEEE equality: a NaN equals nothing, the two zeros equal each other, and
otherwise the patterns have to agree. -/
def ieeeEq (x y : Binary64) : Bool :=
  !x.isNaN && !y.isNaN && (x.bits == y.bits || x.isZero && y.isZero)

instance : BEq Binary64 := ⟨ieeeEq⟩

/-- The whole number `m` of a finite magnitude `m * 2 ^ scale`. -/
def significand (x : Binary64) : Nat :=
  if x.exponentField = 0 then x.fractionField else fractionSize + x.fractionField

/-- The power of two that `significand` is multiplied by. -/
def scale (x : Binary64) : Int :=
  if x.exponentField = 0 then -1074 else x.exponentField - 1075

/-- Whether a finite number lies just above a power of two, where the number below
it is only half as far away as the number above it. -/
def isBinadeStart (x : Binary64) : Bool := x.fractionField == 0 && 1 < x.exponentField

/-- A finite magnitude as a quotient of whole numbers. -/
def numerator (x : Binary64) : Nat := x.significand * Nat.pow 2 x.scale.toNat

def denominator (x : Binary64) : Nat := Nat.pow 2 (-x.scale).toNat

def isWhole (x : Binary64) : Bool :=
  !x.isNaN && !x.isInfinite && x.numerator % x.denominator == 0

end Binary64

end GuardedRules
