import GuardedRules.Pattern.Matching

/-!
# What a match comes to

The outcome and the journal of a match in terms of those of its parts: one equation for every
kind of pattern that has parts, and one for the components of a constructor.
-/

namespace GuardedRules.Pattern

variable {σ V : Type} [BEq V]

/-- A constructor declines or fails before any sub-pattern runs, or it matches the components. -/
theorem runFrom_constructor (name : String) (children : List (Pattern σ V))
    (extract : Extractor σ V) (subject : V) (journal : Journal σ) :
    (matchSubject (.constructor name children extract) subject).runFrom journal =
      match (extract subject).run journal with
      | (none, left) => (.ok none, left.push (.extractorDeclined name))
      | (some values, left) =>
        if values.length = children.length then
          (matchComponents name .empty children values).runFrom left
        else (.error (.arityMismatch name children.length values.length), left) := by
  rw [matchSubject, Attempt.runFrom_bind, Attempt.runFrom_lift]
  rcases (extract subject).run journal with ⟨_ | values, left⟩
  · rfl
  · by_cases hlength : values.length = children.length
    · simp only [if_pos hlength]
    · simp only [if_neg hlength, Attempt.runFrom_throw]

/-- The first component is merged behind what has been found, and then the others follow. -/
theorem runFrom_components_cons (name : String) (found : Bindings V) (child : Pattern σ V)
    (children : List (Pattern σ V)) (value : V) (values : List V) (journal : Journal σ) :
    (matchComponents name found (child :: children) (value :: values)).runFrom journal =
      match (child.matchSubject value).runFrom journal with
      | (.error error, left) => (.error error, left)
      | (.ok none, left) => (.ok none, left)
      | (.ok (some bindings), left) =>
        match found.merge bindings with
        | .ok merged => (matchComponents name merged children values).runFrom left
        | .error conflict => (.ok none, left.push (.unequalBindings name conflict.name)) := by
  rw [matchComponents, Attempt.runFrom_bind]
  rcases (child.matchSubject value).runFrom journal with ⟨_ | _ | bindings, left⟩
  · rfl
  · rfl
  · rcases hmerge : found.merge bindings with conflict | merged
    · simp only [hmerge]
      rfl
    · simp only [hmerge]

/-- The name of an alias is merged in front of what the inner pattern binds. -/
theorem runFrom_aliased (name : String) (inner : Pattern σ V) (subject : V)
    (journal : Journal σ) :
    (matchSubject (.aliased name inner) subject).runFrom journal =
      match (inner.matchSubject subject).runFrom journal with
      | (.error error, left) => (.error error, left)
      | (.ok none, left) => (.ok none, left)
      | (.ok (some found), left) =>
        match (Bindings.singleton name subject).merge found with
        | .ok bindings => (.ok (some bindings), left)
        | .error conflict => (.ok none, left.push (.aliasConflict name conflict.name)) := by
  rw [matchSubject, Attempt.runFrom_bind]
  rcases (inner.matchSubject subject).runFrom journal with ⟨_ | _ | found, left⟩
  · rfl
  · rfl
  · rcases hmerge : (Bindings.singleton name subject).merge found with conflict | bindings
    · simp only [hmerge]
      rfl
    · simp only [hmerge, Attempt.runFrom_pure]

end GuardedRules.Pattern
