import GuardedRules.Pattern

/-!
# Patterns that differ in names or detail

Two ways to vary a pattern without touching its extractors: renaming its variables,
possibly giving two of them one name, and replacing parts of it by wildcards.
-/

namespace GuardedRules.Pattern

variable {σ V : Type}

mutual

def rename (f : String → String) : Pattern σ V → Pattern σ V
  | .constructor name children extract => .constructor name (renameAll f children) extract
  | .var name => .var (f name)
  | .wildcard => .wildcard
  | .aliased name inner => .aliased (f name) (rename f inner)
  | .equality value => .equality value

def renameAll (f : String → String) : List (Pattern σ V) → List (Pattern σ V)
  | [] => []
  | child :: rest => rename f child :: renameAll f rest

end

mutual

/-- The second pattern is the first one with parts replaced by wildcards. -/
inductive Weakens : Pattern σ V → Pattern σ V → Prop
  | wildcard (p : Pattern σ V) : Weakens p .wildcard
  | var (name : String) : Weakens (.var name) (.var name)
  | aliased {name : String} {inner weaker : Pattern σ V} :
      Weakens inner weaker → Weakens (.aliased name inner) (.aliased name weaker)
  | equality (value : V) : Weakens (.equality value) (.equality value)
  | constructor {name : String} {children weaker : List (Pattern σ V)}
      {extract : Extractor σ V} :
      WeakensIn children weaker →
      Weakens (.constructor name children extract) (.constructor name weaker extract)

inductive WeakensIn : List (Pattern σ V) → List (Pattern σ V) → Prop
  | nil : WeakensIn [] []
  | cons {child weaker : Pattern σ V} {rest weakerRest : List (Pattern σ V)} :
      Weakens child weaker → WeakensIn rest weakerRest →
      WeakensIn (child :: rest) (weaker :: weakerRest)

end

theorem renameAll_eq_map (f : String → String) (children : List (Pattern σ V)) :
    renameAll f children = children.map (rename f) := by
  induction children with
  | nil => rfl
  | cons child rest ih => simp [renameAll, ih]

end GuardedRules.Pattern
