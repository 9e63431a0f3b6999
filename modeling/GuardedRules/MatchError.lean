/-!
# Errors of matching

A pattern that does not fit its subject is no error. What is reported here are
faults in the rules: a subject no alternative wants, an extractor that does not
fit its constructor, a variable that no pattern binds, and failures of actions.
-/

namespace GuardedRules

/-- Names in a row. Rows are told apart by their text, which does not say where a name with a
comma in it ends. -/
structure NameRow where
  text : String
deriving DecidableEq

def NameRow.ofList (names : List String) : NameRow := ⟨", ".intercalate names⟩

instance : Coe (List String) NameRow := ⟨NameRow.ofList⟩

/-- What can be wrong with a rule, as far as matching notices. -/
inductive MatchError where
  /-- Every alternative declined the subject. -/
  | noMatch (alternatives : Nat)
  /-- An extractor gave another number of values than there are sub-patterns. -/
  | arityMismatch (constructor : String) (expected found : Nat)
  /-- A guard or action asked for a variable that its pattern does not bind. -/
  | undefinedVariable (name : String) (bound : NameRow)
  /-- An action failed with a reason of its own. -/
  | action (reason : String)
deriving DecidableEq

namespace MatchError

def message : MatchError → String
  | noMatch alternatives => s!"No rule matched the subject ({alternatives} alternatives tried)"
  | arityMismatch constructor expected found =>
    s!"Arity mismatch: constructor {constructor} has {expected} sub-patterns, " ++
      s!"but its extractor produced {found} values"
  | undefinedVariable name _ => s!"Undefined pattern variable: {name}"
  | action reason => reason

/-- The stable identifier of the kind of error. -/
def code : MatchError → String
  | noMatch _ => "rulematch::no_match"
  | arityMismatch .. => "rulematch::arity_mismatch"
  | undefinedVariable .. => "rulematch::undefined_variable"
  | action _ => "rulematch::action_failed"

def help : MatchError → Option String
  | noMatch _ =>
    some "Add a catch-all alternative such as `wildcard().then(..)` to handle every subject"
  | arityMismatch .. =>
    some "The extractor of a constructor pattern must return exactly one value per sub-pattern"
  | undefinedVariable _ bound =>
    some s!"The pattern this guard or action is attached to binds: [{bound.text}]"
  | action _ => none

def isNoMatch : MatchError → Bool
  | noMatch _ => true
  | _ => false

end MatchError

/-- An error type of a caller in which the errors of matching have a place. -/
class OfMatchError (ε : Type) where
  ofMatchError : MatchError → ε

export OfMatchError (ofMatchError)

instance : OfMatchError MatchError := ⟨id⟩

end GuardedRules
