import GuardedRules.Proofs.PatternRuns

/-!
# When a match succeeds

One equivalence for every kind of pattern, which says what has to succeed inside it for
the whole to give bindings. Extractors may be any code: the journal that each step
leaves to the next one is named by running the steps before it.
-/

namespace GuardedRules.Pattern

variable {σ V : Type} [BEq V]

theorem var_succeeds_iff {name : String} {subject : V} {journal : Journal σ} {b : Bindings V} :
    ((matchSubject (.var name) subject).runFrom journal).1 = .ok (some b) ↔
      b = .singleton name subject := by
  rw [matchSubject, Attempt.runFrom_pure, Except.ok.injEq, Option.some.injEq, eq_comm]

theorem wildcard_succeeds_iff {subject : V} {journal : Journal σ} {b : Bindings V} :
    ((matchSubject .wildcard subject).runFrom journal).1 = .ok (some b) ↔ b = .empty := by
  rw [matchSubject, Attempt.runFrom_pure, Except.ok.injEq, Option.some.injEq, eq_comm]

theorem equality_succeeds_iff {value subject : V} {journal : Journal σ} {b : Bindings V} :
    ((matchSubject (.equality value) subject).runFrom journal).1 = .ok (some b) ↔
      (subject == value) = true ∧ b = .empty := by
  rw [matchSubject]
  by_cases heq : (subject == value) = true
  · rw [if_pos heq, Attempt.runFrom_pure, Except.ok.injEq, Option.some.injEq, eq_comm,
      and_iff_right heq]
  · rw [if_neg heq, Attempt.runFrom_bind]
    simp [heq]

/-- The name of an alias is merged in front of what the inner pattern binds. -/
theorem aliased_succeeds_iff {name : String} {inner : Pattern σ V} {subject : V}
    {journal : Journal σ} {b : Bindings V} :
    ((matchSubject (.aliased name inner) subject).runFrom journal).1 = .ok (some b) ↔
      ∃ found, ((inner.matchSubject subject).runFrom journal).1 = .ok (some found) ∧
        (Bindings.singleton name subject).merge found = .ok b := by
  rw [runFrom_aliased]
  rcases (inner.matchSubject subject).runFrom journal with ⟨_ | _ | found, left⟩
  · simp
  · simp
  · rcases hmerge : (Bindings.singleton name subject).merge found with conflict | bindings
    · simp [hmerge]
    · simp [hmerge]

/-- A constructor needs components, as many as it has children, that match these. -/
theorem constructor_succeeds_iff {name : String} {children : List (Pattern σ V)}
    {extract : Extractor σ V} {subject : V} {journal : Journal σ} {b : Bindings V} :
    ((matchSubject (.constructor name children extract) subject).runFrom journal).1 =
        .ok (some b) ↔
      ∃ values, ((extract subject).run journal).1 = some values ∧
        values.length = children.length ∧
        ((matchComponents name .empty children values).runFrom
          ((extract subject).run journal).2).1 = .ok (some b) := by
  rw [runFrom_constructor]
  rcases (extract subject).run journal with ⟨_ | values, left⟩
  · simp
  · by_cases hlength : values.length = children.length
    · simp [hlength]
    · simp [hlength]

theorem components_nil_succeed_iff {name : String} {found b : Bindings V} {values : List V}
    {journal : Journal σ} :
    ((matchComponents name found ([] : List (Pattern σ V)) values).runFrom journal).1 =
      .ok (some b) ↔ b = found := by
  rw [matchComponents, Attempt.runFrom_pure, Except.ok.injEq, Option.some.injEq, eq_comm]

/-- The first component is merged behind what has been found before the others follow. -/
theorem components_cons_succeed_iff {name : String} {found b : Bindings V}
    {child : Pattern σ V} {children : List (Pattern σ V)} {value : V} {values : List V}
    {journal : Journal σ} :
    ((matchComponents name found (child :: children) (value :: values)).runFrom journal).1 =
        .ok (some b) ↔
      ∃ bindings merged, ((child.matchSubject value).runFrom journal).1 = .ok (some bindings) ∧
        found.merge bindings = .ok merged ∧
        ((matchComponents name merged children values).runFrom
          ((child.matchSubject value).runFrom journal).2).1 = .ok (some b) := by
  rw [runFrom_components_cons]
  rcases (child.matchSubject value).runFrom journal with ⟨_ | _ | bindings, left⟩
  · simp
  · simp
  · rcases hmerge : found.merge bindings with conflict | merged
    · simp [hmerge]
    · simp [hmerge]

end GuardedRules.Pattern
