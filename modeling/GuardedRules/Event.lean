/-!
# Events

What an evaluation puts on record about the way it took: why a pattern declined,
which guard decided, and that no alternative was left.
-/

namespace GuardedRules

/-- The steps of an evaluation that are put on record. -/
inductive Event where
  /-- The extractor of a constructor, or an equality test, turned the subject down. -/
  | extractorDeclined (constructor : String)
  /-- Two components of a constructor bound one variable to unequal values. -/
  | unequalBindings (constructor variableName : String)
  /-- An alias and the pattern inside it bound one variable to unequal values. -/
  | aliasConflict (aliasName variableName : String)
  /-- The guard of an arm held and its action succeeded. -/
  | guardSatisfied (arm : Nat)
  /-- The guard of an arm did not hold. -/
  | guardDeclined (arm : Nat)
  /-- A pattern matched and none of its arms had a guard that held. -/
  | noGuardSatisfied (arms : Nat)
  /-- Every alternative of a rule declined. -/
  | exhausted (alternatives : Nat)
deriving DecidableEq

/-- How closely one has to look to see an event. -/
inductive Event.Level where
  | debug
  | trace
deriving DecidableEq

namespace Event

/-- Exhaustion concerns a whole rule, every other event a step within one. -/
def level : Event → Level
  | exhausted _ => .debug
  | _ => .trace

def message : Event → String
  | extractorDeclined _ => "extractor declined subject"
  | unequalBindings _ _ => "non-linear pattern bound unequal values"
  | aliasConflict _ _ => "alias binding conflicts with inner pattern"
  | guardSatisfied _ => "guard satisfied"
  | guardDeclined _ => "guard declined"
  | noGuardSatisfied _ => "pattern matched but no guard was satisfied"
  | exhausted _ => "no rule alternative matched subject"

def particulars : Event → List (String × String)
  | extractorDeclined constructor => [("constructor", constructor)]
  | unequalBindings constructor variableName =>
    [("constructor", constructor), ("variable", variableName)]
  | aliasConflict aliasName variableName => [("alias", aliasName), ("variable", variableName)]
  | guardSatisfied arm => [("arm", toString arm)]
  | guardDeclined arm => [("arm", toString arm)]
  | noGuardSatisfied arms => [("arms", toString arms)]
  | exhausted alternatives => [("alternatives", toString alternatives)]

end Event

end GuardedRules
