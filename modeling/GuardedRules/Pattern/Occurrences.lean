import GuardedRules.Pattern.Extractors

/-!
# Where a pattern binds what

The places of a pattern that bind a value, read from left to right, apart from
the order in which matching visits and merges them. A name may occur at several
places. The places agree when every later value of a name equals its first one, and
the first places are what remains when the later ones are left out.
-/

namespace GuardedRules

/-- A name together with the value bound at one place. -/
abbrev Place (V : Type) := String × V

namespace Place

variable {V : Type}

/-- The first place of every name, in order. -/
def firsts : List (Place V) → List (Place V)
  | [] => []
  | place :: rest => place :: (firsts rest).filter fun other => other.1 ≠ place.1

/-- Every later value of a name equals the first one. -/
def Agree [BEq V] (places : List (Place V)) : Prop :=
  ∀ before place after, places = before ++ place :: after →
    ∀ known, before.lookup place.1 = some known → (known == place.2) = true

end Place

namespace Pattern

variable {σ V : Type}

mutual

/-- The names of the variables and aliases of a pattern, once for each place. -/
def mentions : Pattern σ V → List String
  | .constructor _ children _ => mentionsIn children
  | .var name => [name]
  | .wildcard => []
  | .aliased name inner => name :: mentions inner
  | .equality _ => []

def mentionsIn : List (Pattern σ V) → List String
  | [] => []
  | child :: rest => mentions child ++ mentionsIn rest

end

variable [BEq V]

mutual

/-- A pattern fits a subject in shape, and these are the places where it binds. -/
inductive Occurs : Pattern σ V → V → List (Place V) → Prop
  | var (name : String) (subject : V) : Occurs (.var name) subject [(name, subject)]
  | wildcard (subject : V) : Occurs .wildcard subject []
  | aliased {name : String} {inner : Pattern σ V} {subject : V} {places : List (Place V)} :
      Occurs inner subject places →
      Occurs (.aliased name inner) subject ((name, subject) :: places)
  | equality {value subject : V} : (subject == value) = true →
      Occurs (.equality value) subject []
  | constructor {name : String} {children : List (Pattern σ V)} {extract : Extractor σ V}
      {subject : V} {values : List V} {places : List (Place V)} :
      extract subject = pure (some values) → OccursIn children values places →
      Occurs (.constructor name children extract) subject places

/-- Patterns fit as many values, and these are the places where they bind. -/
inductive OccursIn : List (Pattern σ V) → List V → List (Place V) → Prop
  | nil : OccursIn [] [] []
  | cons {child : Pattern σ V} {rest : List (Pattern σ V)} {value : V} {values : List V}
      {places later : List (Place V)} :
      Occurs child value places → OccursIn rest values later →
      OccursIn (child :: rest) (value :: values) (places ++ later)

end

end Pattern

end GuardedRules
