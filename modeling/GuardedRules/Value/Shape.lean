import GuardedRules.Value

/-!
# The shape of values

What equality of values does not see and what it does: values of one shape differ at
most in the numbers, texts and names at their leaves, and the only leaves that are
equal without being identical are the two zeros.
-/

namespace GuardedRules

/-- Identical numbers, or zeros that may differ in sign. -/
def Binary64.SameButZeroSign (x y : Binary64) : Prop := x = y ∨ x.isZero = true ∧ y.isZero = true

namespace Value

mutual

/-- No NaN occurs in the value, at any depth. -/
def NaNFree : Value → Prop
  | float number => number.isNaN = false
  | tuple items => NaNFreeAll items
  | data _ fields => NaNFreeAll fields
  | _ => True

def NaNFreeAll : List Value → Prop
  | [] => True
  | value :: rest => NaNFree value ∧ NaNFreeAll rest

end

mutual

/-- The values are identical but for the signs of zeros: kinds, tags and lengths agree at
every position, and so do all leaves. -/
def SameButZeroSigns : Value → Value → Prop
  | float x, float y => x.SameButZeroSign y
  | tuple as, tuple bs => SameButZeroSignsAll as bs
  | data s as, data t bs => s = t ∧ SameButZeroSignsAll as bs
  | integer a, integer b => a = b
  | boolean a, boolean b => a = b
  | string a, string b => a = b
  | atom a, atom b => a = b
  | unit, unit => True
  | _, _ => False

def SameButZeroSignsAll : List Value → List Value → Prop
  | [], [] => True
  | a :: as, b :: bs => SameButZeroSigns a b ∧ SameButZeroSignsAll as bs
  | _, _ => False

end

end Value

end GuardedRules
