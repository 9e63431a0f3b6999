import GuardedRules.Pattern

/-!
# Written patterns

The short text of a pattern. A constructor shows its name and its sub-patterns but
not its extractor.
-/

namespace GuardedRules.Pattern

variable {σ V : Type} [ToString V]

mutual

/-- The text of a pattern, in the notation in which patterns are usually set down. -/
def toText : Pattern σ V → String
  | .constructor name children _ => name ++ "(" ++ ", ".intercalate (toTexts children) ++ ")"
  | .var name => name
  | .wildcard => "_"
  | .aliased name inner => name ++ " @ " ++ toText inner
  | .equality value => "== " ++ toString value

def toTexts : List (Pattern σ V) → List String
  | [] => []
  | child :: rest => toText child :: toTexts rest

end

instance : ToString (Pattern σ V) := ⟨toText⟩

theorem toTexts_eq_map (children : List (Pattern σ V)) : toTexts children = children.map toText := by
  induction children with
  | nil => rfl
  | cons child rest ih => rw [toTexts, ih, List.map_cons]

omit [ToString V]

mutual

/-- The pattern with every extractor replaced by one that declines. -/
def withoutExtractors : Pattern σ V → Pattern Unit V
  | .constructor name children _ =>
    .constructor name (withoutAllExtractors children) fun _ => return none
  | .var name => .var name
  | .wildcard => .wildcard
  | .aliased name inner => .aliased name (withoutExtractors inner)
  | .equality value => .equality value

def withoutAllExtractors : List (Pattern σ V) → List (Pattern Unit V)
  | [] => []
  | child :: rest => withoutExtractors child :: withoutAllExtractors rest

end

theorem withoutAllExtractors_eq_map (children : List (Pattern σ V)) :
    withoutAllExtractors children = children.map withoutExtractors := by
  induction children with
  | nil => rfl
  | cons child rest ih => rw [withoutAllExtractors, ih, List.map_cons]

/-- Extractors leave no trace in the text. -/
theorem toText_withoutExtractors [ToString V] (p : Pattern σ V) :
    p.withoutExtractors.toText = p.toText := by
  induction p using Pattern.induction with
  | constructor name children extract ih =>
    have htexts : children.map (toText ∘ withoutExtractors) = children.map toText :=
      List.map_congr_left ih
    rw [withoutExtractors, toText, toText, withoutAllExtractors_eq_map, toTexts_eq_map,
      toTexts_eq_map, List.map_map, htexts]
  | var => rfl
  | wildcard => rfl
  | aliased name inner ih => rw [withoutExtractors, toText, toText, ih]
  | equality => rfl

end GuardedRules.Pattern
