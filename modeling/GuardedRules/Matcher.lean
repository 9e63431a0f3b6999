import GuardedRules.Rule.Evaluation

/-!
# Matching a subject against rules

A matcher holds a subject. It can be tried against a rule, or be matched against
one that is expected to have an answer.
-/

namespace GuardedRules

/-- A subject about to be matched. -/
structure Matcher (V : Type) where
  subject : V
deriving Inhabited

def matchOn {V : Type} (subject : V) : Matcher V := ⟨subject⟩

namespace Matcher

variable {σ V R ε : Type}

instance [BEq V] : BEq (Matcher V) where
  beq l r := l.subject == r.subject

variable [BEq V] [OfMatchError ε]

/-- The outcome of the rule, or none when every alternative declines. -/
def tryAgainst (matcher : Matcher V) (rule : Rule σ V R ε) : Attempt ε σ (Option R) :=
  rule.matchSubject matcher.subject

/-- The outcome of the rule. It is an error, and put on record, when every alternative
declines. -/
def against (matcher : Matcher V) (rule : Rule σ V R ε) : Attempt ε σ R := do
  match ← matcher.tryAgainst rule with
  | some outcome => return outcome
  | none =>
    record (.exhausted rule.alternatives)
    throw (ofMatchError (.noMatch rule.alternatives))

end Matcher

end GuardedRules
