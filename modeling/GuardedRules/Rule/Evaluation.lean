import GuardedRules.Pattern.Matching
import GuardedRules.Rule

/-!
# Applying a rule to a subject

Alternatives are tried from left to right and arms from first to last. The first
guard that holds decides: its action gives the outcome, and nothing runs after it.
A failure of any kind ends the evaluation at once.
-/

namespace GuardedRules

variable {σ V R ε : Type}

/-- Tries arms in order, counting them from `index`. -/
def Arm.tryInOrder (result : MatchResult V) (index : Nat) :
    List (Arm σ V R ε) → Attempt ε σ (Option R)
  | [] => do
    record (.noGuardSatisfied index)
    return none
  | arm :: arms => do
    match ← arm.evaluate result with
    | some outcome =>
      record (.guardSatisfied index)
      return some outcome
    | none =>
      record (.guardDeclined index)
      tryInOrder result (index + 1) arms

variable [BEq V] [OfMatchError ε]

/-- Applies a base rule: none when its pattern or all of its guards decline. -/
def BaseRule.matchSubject (rule : BaseRule σ V R ε) (subject : V) :
    Attempt ε σ (Option R) := do
  match ← (rule.pattern.matchSubject subject).adapt ofMatchError with
  | none => return none
  | some bindings => Arm.tryInOrder ⟨bindings⟩ 0 rule.arms

namespace Rule

/-- Applies the rules on a work list, the first one first, until one has an outcome. -/
def applyPending (subject : V) : List (Rule σ V R ε) → Attempt ε σ (Option R)
  | [] => return none
  | .base rule :: pending => do
    match ← rule.matchSubject subject with
    | some outcome => return some outcome
    | none => applyPending subject pending
  | .orElse left right :: pending => applyPending subject (left :: right :: pending)
termination_by pending => pendingNodes pending
decreasing_by all_goals simp [pendingNodes, nodes] <;> omega

/-- Applies a rule: the outcome, or none when every alternative declines. -/
def matchSubject (rule : Rule σ V R ε) (subject : V) : Attempt ε σ (Option R) :=
  applyPending subject [rule]

end Rule

end GuardedRules
