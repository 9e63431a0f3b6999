import GuardedRules.Matcher
import GuardedRules.Outline

/-!
# Outlines of patterns and matches

The extractor of a constructor pattern is code and has no outline.
-/

namespace GuardedRules

variable {σ V : Type} [Outlined V]

namespace Pattern

mutual

def toOutline : Pattern σ V → Outline
  | .constructor name children _ => .fieldsElided "Constructor" [
      ("name", .text name), ("children", .sequence (toOutlines children))]
  | .var name => .call "Variable" [.text name]
  | .wildcard => .leaf "Wildcard"
  | .aliased name inner => .fields "Alias" [("name", .text name), ("inner", toOutline inner)]
  | .equality value => .call "Equality" [outline value]

def toOutlines : List (Pattern σ V) → List Outline
  | [] => []
  | child :: rest => toOutline child :: toOutlines rest

end

instance : Outlined (Pattern σ V) := ⟨toOutline⟩

end Pattern

instance : Outlined (Bindings V) where
  outline bindings := .fields "Bindings" [
    ("entries", .mapping (bindings.entries.map fun entry => (entry.1, outline entry.2)))]

instance : Outlined (MatchResult V) where
  outline result := .fields "MatchResult" [("bindings", outline result.bindings)]

instance : Outlined (Matcher V) where
  outline matcher := .fields "Matcher" [("subject", outline matcher.subject)]

end GuardedRules
