import GuardedRules.Pattern

/-!
# Matching a subject

A match yields the bindings of the pattern's variables or declines the subject; it
fails only when an extractor does not fit its constructor. Components are matched
from left to right, and a variable in several places has to find equal values.
Wherever a pattern declines, one event says so.
-/

namespace GuardedRules.Pattern

variable {σ V : Type} [BEq V]

/-- The name under which equality tests report that they declined. -/
def equalityName : String := "=="

mutual

/-- Matches a subject: its bindings, or none when the pattern declines it. -/
def matchSubject : Pattern σ V → V → Attempt MatchError σ (Option (Bindings V))
  | .constructor name children extract, subject => do
    match ← extract subject with
    | none =>
      record (.extractorDeclined name)
      return none
    | some values =>
      if values.length = children.length then
        matchComponents name .empty children values
      else
        throw (.arityMismatch name children.length values.length)
  | .var name, subject => return some (.singleton name subject)
  | .wildcard, _ => return some .empty
  | .aliased name inner, subject => do
    match ← matchSubject inner subject with
    | none => return none
    | some found =>
      match (Bindings.singleton name subject).merge found with
      | .ok bindings => return some bindings
      | .error conflict =>
        record (.aliasConflict name conflict.name)
        return none
  | .equality value, subject => do
    if subject == value then return some .empty
    else
      record (.extractorDeclined equalityName)
      return none

/-- Matches the components of a constructor one by one and adds their bindings to those
found so far. -/
def matchComponents (name : String) (found : Bindings V) :
    List (Pattern σ V) → List V → Attempt MatchError σ (Option (Bindings V))
  | [], _ => return some found
  | _ :: _, [] => return some found
  | child :: children, value :: values => do
    match ← matchSubject child value with
    | none => return none
    | some bindings =>
      match found.merge bindings with
      | .ok merged => matchComponents name merged children values
      | .error conflict =>
        record (.unequalBindings name conflict.name)
        return none

end

end GuardedRules.Pattern
