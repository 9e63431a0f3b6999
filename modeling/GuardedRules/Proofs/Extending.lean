import GuardedRules.Proofs.Steady
import GuardedRules.Value.Pattern

/-!
# One more guard

A guard that is added to a rule matters to the subjects that the rule has declined so far,
and among them only to those that the pattern in front of it matches. It does so exactly
as an alternative of its own with the same pattern would. The code in front of the new arm
may do whatever it likes; steady have to be the pattern, which the alternative matches a
second time, and the new arm.
-/

namespace GuardedRules

variable {σ V R ε : Type}

/-- Two attempts in a row decline only if the second one does, from where the first one ended. -/
theorem Attempt.declines_of_orTry {first second : Attempt ε σ (Option R)} {journal : Journal σ}
    (h : ((first.orTry second).runFrom journal).1 = .ok none) :
    ∃ left, (second.runFrom left).1 = .ok none := by
  rw [runFrom_orTry] at h
  rcases hfirst : first.runFrom journal with ⟨_ | _ | _, left⟩
  · rw [hfirst] at h
    cases h
  · rw [hfirst] at h
    exact ⟨left, h⟩
  · rw [hfirst] at h
    cases h

variable [BEq V] [OfMatchError ε]

/-- A base rule that declines has matched its pattern without failing. -/
theorem BaseRule.matches_of_declined (rule : BaseRule σ V R ε) {subject : V} {journal : Journal σ}
    (h : ((rule.matchSubject subject).runFrom journal).1 = .ok none) :
    ∃ matched, ((rule.pattern.matchSubject subject).runFrom journal).1 = .ok matched := by
  rw [runFrom_matchSubject] at h
  rcases hpattern : (rule.pattern.matchSubject subject).runFrom journal with ⟨_ | matched, left⟩
  · rw [hpattern] at h
    cases h
  · exact ⟨matched, rfl⟩

/-- An arm behind the others is as good as a base rule of its own. -/
theorem BaseRule.outcome_addArm (rule : BaseRule σ V R ε) {arm : Arm σ V R ε} (harm : arm.IsSteady)
    (subject : V) (journal : Journal σ) :
    (((rule.addArm arm).matchSubject subject).runFrom journal).1 =
      settle ((rule.matchSubject subject).runFrom journal).1
        ((matchSubject ⟨rule.pattern, [arm]⟩ subject).runFrom journal).1 := by
  rw [runFrom_matchSubject, runFrom_matchSubject, runFrom_matchSubject, addArm]
  rcases (rule.pattern.matchSubject subject).runFrom journal with ⟨_ | _ | bindings, left⟩
  · rfl
  · rfl
  · simp only [Arm.outcome_tryInOrder_concat harm, Arm.outcome_tryInOrder_singleton harm]

namespace Rule

theorem matchSubject_base (rule : BaseRule σ V R ε) (subject : V) :
    (Rule.base rule).matchSubject subject = rule.matchSubject subject :=
  matchSubject_eq_applyTree _ subject

theorem outcome_orElse (rule other : Rule σ V R ε) {subject : V}
    (h : (other.matchSubject subject).IsSteady) (journal : Journal σ) :
    (((rule.orElse other).matchSubject subject).runFrom journal).1 =
      settle ((rule.matchSubject subject).runFrom journal).1
        ((other.matchSubject subject).runFrom journal).1 := by
  simp only [matchSubject_eq_applyTree] at h ⊢
  rw [applyTree_orElse, Attempt.outcome_orTry h]

/-- A rule goes through the base rules in front and then applies the one declared last. -/
theorem exists_matchSubject_eq_orTry (rule : Rule σ V R ε) (subject : V) :
    ∃ front : Attempt ε σ (Option R),
      rule.matchSubject subject = front.orTry (rule.last.matchSubject subject) ∧
      ∀ arm, (rule.withGuard arm).matchSubject subject =
        front.orTry ((rule.last.addArm arm).matchSubject subject) := by
  have hsingle (base : BaseRule σ V R ε) :
      BaseRule.applyInOrder subject [base] = base.matchSubject subject :=
    Attempt.orTry_none _
  obtain ⟨front, hlist, hguarded⟩ := rule.exists_front
  refine ⟨BaseRule.applyInOrder subject front, ?_, ?_⟩
  · rw [matchSubject_eq_applyInOrder, hlist, BaseRule.applyInOrder_append, hsingle]
  · intro arm
    rw [matchSubject_eq_applyInOrder, hguarded, BaseRule.applyInOrder_append, hsingle]

/-- The pattern declared last does not fail where the rule declines. -/
theorem last_matches_of_declined {rule : Rule σ V R ε} {subject : V} {journal : Journal σ}
    (hpattern : rule.last.pattern.EveryExtractor Extractor.IsSteady)
    (h : ((rule.matchSubject subject).runFrom journal).1 = .ok none) :
    ∃ matched, ((rule.last.pattern.matchSubject subject).runFrom journal).1 = .ok matched := by
  obtain ⟨front, hrule, -⟩ := rule.exists_matchSubject_eq_orTry subject
  rw [hrule] at h
  obtain ⟨left, hlast⟩ := Attempt.declines_of_orTry h
  rw [Pattern.isSteady_matchSubject hpattern subject journal left]
  exact rule.last.matches_of_declined hlast

/-- One more guard is evaluated, with its pattern, where the rule declines. -/
theorem outcome_withGuard (rule : Rule σ V R ε) {arm : Arm σ V R ε}
    (hpattern : rule.last.pattern.EveryExtractor Extractor.IsSteady) (harm : arm.IsSteady)
    (subject : V) (journal : Journal σ) :
    (((rule.withGuard arm).matchSubject subject).runFrom journal).1 =
      settle ((rule.matchSubject subject).runFrom journal).1
        ((BaseRule.matchSubject ⟨rule.last.pattern, [arm]⟩ subject).runFrom journal).1 := by
  obtain ⟨front, hrule, hguarded⟩ := rule.exists_matchSubject_eq_orTry subject
  rw [hrule, hguarded, Attempt.runFrom_orTry, Attempt.runFrom_orTry]
  rcases front.runFrom journal with ⟨_ | _ | _, left⟩
  · rfl
  · rw [BaseRule.isSteady_single hpattern harm subject journal left]
    exact rule.last.outcome_addArm harm subject left
  · rfl

/-- One more guard changes the outcome of a rule only where the rule declines. It then declines
too if the pattern declared last does, and otherwise evaluates the new arm on what the pattern
has matched. The outcome is always that of the rule with an alternative of its own for the arm. -/
theorem withGuard_extends (rule : Rule σ V R ε) (arm : Arm σ V R ε) (subject : V)
    (hpattern : rule.last.pattern.EveryExtractor Extractor.IsSteady) (harm : arm.IsSteady)
    (journal : Journal σ) :
    let before := ((rule.matchSubject subject).runFrom journal).1
    let after := (((rule.withGuard arm).matchSubject subject).runFrom journal).1
    let matched := ((rule.last.pattern.matchSubject subject).runFrom journal).1
    (before ≠ .ok none → after = before) ∧
    (before = .ok none →
      (matched = .ok none ∧ after = .ok none) ∨
      ∃ bindings, matched = .ok (some bindings) ∧
        after = ((arm.evaluate ⟨bindings⟩).runFrom journal).1) ∧
    after = (((rule.orElse (rule.last.pattern.when arm)).matchSubject subject).runFrom journal).1 := by
  intro before after matched
  have hafter : after = settle before
      ((BaseRule.matchSubject ⟨rule.last.pattern, [arm]⟩ subject).runFrom journal).1 :=
    rule.outcome_withGuard hpattern harm subject journal
  refine ⟨?_, ?_, ?_⟩
  · intro hdecided
    rw [hafter]
    rcases hbefore : before with _ | _ | _
    · rfl
    · exact absurd hbefore hdecided
    · rfl
  · intro hdeclined
    rw [hafter, hdeclined, settle, BaseRule.outcome_single _ harm]
    obtain ⟨found, hfound⟩ := last_matches_of_declined hpattern hdeclined
    cases found with
    | none => exact .inl ⟨hfound, by rw [hfound]⟩
    | some bindings => exact .inr ⟨bindings, hfound, by rw [hfound]⟩
  · have hsteady : ((rule.last.pattern.when arm).matchSubject subject).IsSteady := by
      rw [Pattern.when, matchSubject_base]
      exact BaseRule.isSteady_single hpattern harm subject
    rw [hafter, outcome_orElse _ _ hsteady, Pattern.when, matchSubject_base]

/-- Both alternatives of the rule decline a pair; one more guard takes its first component, as
the second of them has bound it. -/
theorem withGuard_extends_pair :
    let refuse : Arm Unit Value Value MatchError := ⟨fun _ => return false, fun _ => return .unit⟩
    let accept : Arm Unit Value Value MatchError :=
      ⟨otherwise, fun result => return (result.get? "x").getD .unit⟩
    let rule := ((Pattern.var "whole").when refuse).orElse
      ((Value.tuplePattern [.var "x", .wildcard]).when refuse)
    let subject := Value.tuple [.integer 1, .unit]
    let journal : Journal Unit := ⟨(), #[]⟩
    rule.last.pattern.EveryExtractor Extractor.IsSteady ∧ accept.IsSteady ∧
      ((rule.matchSubject subject).runFrom journal).1 = .ok none ∧
      (((rule.withGuard accept).matchSubject subject).runFrom journal).1 =
        .ok (some (.integer 1)) := by
  intro refuse accept rule subject journal
  have hpattern : rule.last.pattern.EveryExtractor Extractor.IsSteady :=
    ⟨Extractor.IsPure.isSteady ⟨_, rfl⟩, trivial, trivial, trivial⟩
  have harm : accept.IsSteady :=
    ⟨fun _ => Attempt.isSteady_pure _, fun _ => Attempt.isSteady_pure _⟩
  have hdeclined : ((rule.matchSubject subject).runFrom journal).1 = .ok none := by
    rw [matchSubject_eq_applyTree]
    rfl
  refine ⟨hpattern, harm, hdeclined, ?_⟩
  rcases (withGuard_extends rule accept subject hpattern harm journal).2.1 hdeclined with h | h
  · cases h.1
  · obtain ⟨bindings, hmatched, hafter⟩ := h
    cases hmatched
    exact hafter

end Rule

end GuardedRules
