import GuardedRules.DataType
import GuardedRules.Pattern.Matching

/-!
# Patterns for values

How variants, lists and tuples are taken apart. The pattern of a variant goes by
the tag in small letters but asks for the tag as declared; it takes data of any
number of fields, so that a wrong number of sub-patterns shows as an error. The
pattern of a tuple declines tuples of another length.
-/

namespace GuardedRules

variable {σ : Type}

/-- The fields of data with this tag. -/
def Variant.extract (tag : String) : Value → Option (List Value)
  | .data found fields => if found = tag then some fields else none
  | _ => none

/-- The pattern that takes a variant apart. -/
def Variant.pattern (variant : Variant) (children : List (Pattern σ Value)) : Pattern σ Value :=
  .constructor (Text.lowercase variant.tag) children fun value =>
    return Variant.extract variant.tag value

namespace Value

/-- The items of a tuple of this length. -/
def extractTuple (length : Nat) : Value → Option (List Value)
  | tuple items => if items.length = length then some items else none
  | _ => none

def tuplePattern (children : List (Pattern σ Value)) : Pattern σ Value :=
  .constructor "tuple" children fun value => return extractTuple children.length value

def nilPattern : Pattern σ Value := Variant.pattern ⟨nilTag, 0⟩ []

def consPattern (head tail : Pattern σ Value) : Pattern σ Value :=
  Variant.pattern ⟨consTag, 2⟩ [head, tail]

end Value

end GuardedRules
