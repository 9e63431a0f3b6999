import GuardedRules.Matcher
import GuardedRules.Proofs.Confined
import GuardedRules.Proofs.Steady
import GuardedRules.Proofs.WorkList
import GuardedRules.Value.Pattern

/-!
# Exhaustion

A rule has no answer when every base rule declines: its pattern does, or the guards of all its
arms do. A matcher that expects an answer then reports how many base rules there are, as an
error and on record, and it reports nothing of its own in any other case. So the report can be
told from every other way to fail, as long as guards and actions do not forge it.
-/

namespace GuardedRules

variable {ε σ V R : Type}

theorem Arm.tryInOrder_declines_iff {arms : List (Arm σ V R ε)} (h : ∀ arm ∈ arms, arm.IsSteady)
    (result : MatchResult V) (index : Nat) (journal other : Journal σ) :
    ((tryInOrder result index arms).runFrom journal).1 = .ok none ↔
      ∀ arm ∈ arms, ((arm.guard result).runFrom other).1 = .ok false := by
  induction arms generalizing index journal with
  | nil => exact ⟨fun _ _ hmem => absurd hmem List.not_mem_nil, fun _ => rfl⟩
  | cons arm arms ih =>
    have hrest := fun other hmem => h other (List.mem_cons_of_mem arm hmem)
    have hsame := (h arm List.mem_cons_self).guard result journal other
    rw [List.forall_mem_cons, ← hsame, runFrom_tryInOrder_cons, runFrom_evaluate]
    rcases (arm.guard result).runFrom journal with ⟨error | _ | _, middle⟩
    · simp
    · simp only [ih hrest, true_and]
    · rcases haction : (arm.action result).runFrom middle with ⟨error | value, left⟩
      · simp [haction]
      · simp [haction]

section Declining

variable [BEq V]

/-- The pattern declines the subject, or it matches and the guards of all arms decline. No error
occurs in either case. -/
def BaseRule.Declines (rule : BaseRule σ V R ε) (subject : V) (journal : Journal σ) : Prop :=
  ((rule.pattern.matchSubject subject).runFrom journal).1 = .ok none ∨
    ∃ bindings, ((rule.pattern.matchSubject subject).runFrom journal).1 = .ok (some bindings) ∧
      ∀ arm ∈ rule.arms, ((arm.guard ⟨bindings⟩).runFrom journal).1 = .ok false

variable [OfMatchError ε]

theorem BaseRule.declines_iff {rule : BaseRule σ V R ε} (h : rule.IsSteady) {subject : V}
    {journal : Journal σ} :
    ((rule.matchSubject subject).runFrom journal).1 = .ok none ↔ rule.Declines subject journal := by
  rw [runFrom_matchSubject, Declines]
  rcases (rule.pattern.matchSubject subject).runFrom journal with ⟨error | _ | bindings, middle⟩
  · simp
  · simp
  · rw [Arm.tryInOrder_declines_iff h.arms ⟨bindings⟩ 0 middle journal]
    simp

end Declining

namespace Matcher

variable [BEq V] [OfMatchError ε]

theorem runFrom_against (matcher : Matcher V) (rule : Rule σ V R ε) (journal : Journal σ) :
    (matcher.against rule).runFrom journal =
      match (matcher.tryAgainst rule).runFrom journal with
      | (.error error, left) => (.error error, left)
      | (.ok (some value), left) => (.ok value, left)
      | (.ok none, left) =>
        (.error (ofMatchError (.noMatch rule.toList.length)),
          left.push (.exhausted rule.toList.length)) := by
  rw [against, Attempt.runFrom_bind, rule.alternatives_eq_length]
  rcases (matcher.tryAgainst rule).runFrom journal with ⟨_ | _ | _, left⟩ <;> rfl

/-- What comes of a match that expects an answer depends on the outcome of the rule and on the
number of base rules. -/
theorem outcome_against_eq {matcher other : Matcher V} {first second : Rule σ V R ε}
    (hcount : first.toList.length = second.toList.length) {journal start : Journal σ}
    (h : ((matcher.tryAgainst first).runFrom journal).1 =
      ((other.tryAgainst second).runFrom start).1) :
    ((matcher.against first).runFrom journal).1 = ((other.against second).runFrom start).1 := by
  rw [runFrom_against, runFrom_against, hcount]
  rcases hfirst : (matcher.tryAgainst first).runFrom journal with ⟨outcome, left⟩
  rcases hsecond : (other.tryAgainst second).runFrom start with ⟨result, reached⟩
  rw [hfirst, hsecond] at h
  obtain rfl : outcome = result := h
  rcases outcome with _ | _ | _ <;> rfl

end Matcher

end GuardedRules
