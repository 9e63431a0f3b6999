import GuardedRules.Bindings
import GuardedRules.Journal
import GuardedRules.MatchError

/-!
# Patterns

The shapes a subject can be asked for, over any type of subjects. How a subject is
taken apart is left to extractors, so a pattern says nothing about the type beyond
its equality.
-/

namespace GuardedRules

/-- Takes a subject apart into its components in order, or declines it. -/
abbrev Extractor (σ V : Type) := V → Traced σ (Option (List V))

inductive Pattern (σ V : Type) where
  /-- Takes the subject apart and matches every component against its own sub-pattern. -/
  | constructor (name : String) (children : List (Pattern σ V)) (extract : Extractor σ V)
  /-- Binds the subject. -/
  | var (name : String)
  /-- Takes anything and binds nothing. -/
  | wildcard
  /-- Binds the subject and also matches it against an inner pattern. -/
  | aliased (name : String) (inner : Pattern σ V)
  /-- Takes the subjects that equal a given one. -/
  | equality (value : V)

namespace Pattern

variable {σ V : Type}

instance : Inhabited (Pattern σ V) := ⟨wildcard⟩

/-- Induction over patterns that may assume every child of a constructor. -/
@[elab_as_elim]
theorem induction {motive : Pattern σ V → Prop}
    (constructor : ∀ name children extract, (∀ child ∈ children, motive child) →
      motive (.constructor name children extract))
    (var : ∀ name, motive (.var name))
    (wildcard : motive .wildcard)
    (aliased : ∀ name inner, motive inner → motive (.aliased name inner))
    (equality : ∀ value, motive (.equality value))
    (p : Pattern σ V) : motive p :=
  @Pattern.rec σ V motive (fun children => ∀ child ∈ children, motive child)
    constructor var wildcard aliased equality (by simp) (by simp_all) p

def aliasedAs (p : Pattern σ V) (name : String) : Pattern σ V := .aliased name p

/-- Puts a name behind the others unless it is among them. -/
def addName (names : List String) (name : String) : List String :=
  if name ∈ names then names else names ++ [name]

mutual

/-- Adds the variables of a pattern to those found before it. -/
def collectVariables (found : List String) : Pattern σ V → List String
  | .constructor _ children _ => collectAllVariables found children
  | .var name => addName found name
  | .wildcard => found
  | .aliased name inner => collectVariables (addName found name) inner
  | .equality _ => found

def collectAllVariables (found : List String) : List (Pattern σ V) → List String
  | [] => found
  | child :: rest => collectAllVariables (collectVariables found child) rest

end

/-- The variables that a pattern binds, each once, in the order of their first places. -/
def variableNames (p : Pattern σ V) : List String := collectVariables [] p

end Pattern

end GuardedRules
