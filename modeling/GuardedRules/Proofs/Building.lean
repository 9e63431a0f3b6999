import GuardedRules.Matcher
import GuardedRules.Proofs.WatchedRules
import GuardedRules.Rule.Expression
import GuardedRules.Value

/-!
# Building rules

A rule is as good as the list of its base rules. The expression that builds a rule and the
rule itself list the same, and rules that list the same cannot be told apart: neither by
applying them, nor by the code they call, nor by counting, nor by what is built from them.
-/

namespace GuardedRules

variable {N σ V R ε : Type}

theorem Rule.shape_withGuard (rule : Rule σ V R ε) (arm : Arm σ V R ε) :
    (rule.withGuard arm).shape = rule.shape := by
  induction rule with
  | base => rfl
  | orElse left right _ ih => rw [withGuard_orElse, shape, shape, ih]

theorem RuleExpression.toList_build (named : N → Rule σ V R ε) (e : RuleExpression N σ V R ε) :
    (e.build named).toList = e.listed fun name => (named name).toList := by
  induction e with
  | named => rfl
  | base => rfl
  | when => rfl
  | thenDo => rfl
  | orElse left right ihLeft ihRight => rw [build, Rule.toList, ihLeft, ihRight, listed]
  | withGuard rule arm ih => rw [build, Rule.toList_withGuard, ih, listed]

/-- Rules that list the same may stand for one another in an expression. -/
theorem RuleExpression.toList_build_congr {first second : N → Rule σ V R ε}
    (h : ∀ name, (first name).toList = (second name).toList) (e : RuleExpression N σ V R ε) :
    (e.build first).toList = (e.build second).toList := by
  rw [toList_build, toList_build, funext h]

variable [BEq V] [OfMatchError ε]

/-- Two rules give one answer to every subject, in every way of asking, from every state and
with the same events, and they have as many alternatives. -/
structure Rule.AnswersAlike (first second : Rule σ V R ε) : Prop where
  matchSubject : ∀ subject, first.matchSubject subject = second.matchSubject subject
  tryAgainst : ∀ matcher : Matcher V, matcher.tryAgainst first = matcher.tryAgainst second
  against : ∀ matcher : Matcher V, matcher.against first = matcher.against second
  alternatives : first.alternatives = second.alternatives

/-- Two rules answer alike, also when their calls are watched. -/
structure Rule.Indistinguishable (first second : Rule σ V R ε) : Prop where
  answers : first.AnswersAlike second
  calls : (first.watch 0).AnswersAlike (second.watch 0)

theorem Rule.answersAlike_of_toList_eq {first second : Rule σ V R ε}
    (h : first.toList = second.toList) : first.AnswersAlike second := by
  have hmatch (subject : V) : first.matchSubject subject = second.matchSubject subject := by
    rw [matchSubject_eq_applyInOrder, h, matchSubject_eq_applyInOrder]
  have hcount : first.alternatives = second.alternatives := by
    rw [alternatives_eq_length, h, alternatives_eq_length]
  have htry (matcher : Matcher V) : matcher.tryAgainst first = matcher.tryAgainst second :=
    hmatch matcher.subject
  refine ⟨hmatch, htry, ?_, hcount⟩
  intro matcher
  rw [Matcher.against, Matcher.against, htry, hcount]

theorem Rule.indistinguishable_of_toList_eq {first second : Rule σ V R ε}
    (h : first.toList = second.toList) : first.Indistinguishable second := by
  refine ⟨answersAlike_of_toList_eq h, answersAlike_of_toList_eq ?_⟩
  rw [toList_watch, h, toList_watch]

/-- An expression builds just the list that it writes down. One more guard leaves the shape of a
rule as it is and goes behind the arms of its last base rule. Expressions with equal lists build
rules that cannot be told apart, and neither can be what is built from these by further steps. -/
theorem RuleExpression.build_faithful (named : N → Rule σ V R ε) :
    (∀ e : RuleExpression N σ V R ε,
      (e.build named).toList = e.listed fun name => (named name).toList) ∧
    (∀ (e : RuleExpression N σ V R ε) (arm : Arm σ V R ε),
      ((e.withGuard arm).build named).shape = (e.build named).shape ∧
      ∃ front pattern arms, (e.build named).toList = front ++ [⟨pattern, arms⟩] ∧
        ((e.withGuard arm).build named).toList = front ++ [⟨pattern, arms ++ [arm]⟩]) ∧
    ∀ first second : RuleExpression N σ V R ε,
      (first.build named).toList = (second.build named).toList →
        (first.build named).Indistinguishable (second.build named) ∧
        ∀ context : RuleExpression (Option N) σ V R ε,
          (context.build fun name => name.elim (first.build named) named).Indistinguishable
            (context.build fun name => name.elim (second.build named) named) := by
  refine ⟨toList_build named, ?_, ?_⟩
  · intro e arm
    obtain ⟨front, hlist, hguarded⟩ := (e.build named).exists_front
    exact ⟨Rule.shape_withGuard _ arm, front, _, _, hlist, hguarded arm⟩
  · intro first second h
    refine ⟨Rule.indistinguishable_of_toList_eq h, ?_⟩
    intro context
    refine Rule.indistinguishable_of_toList_eq (context.toList_build_congr ?_)
    intro name
    cases name with
    | none => exact h
    | some name => rfl

/-- The same three alternatives nested to the left and to the right, with one more guard put on
the whole rule or into its last base rule, and a named rule used twice. -/
theorem RuleExpression.build_faithful_nested :
    let refuse : Arm Unit Value Value MatchError := ⟨fun _ => return false, fun _ => return .unit⟩
    let accept : Arm Unit Value Value MatchError := ⟨otherwise, fun _ => return .unit⟩
    let named : Unit → Rule Unit Value Value MatchError := fun _ => Pattern.wildcard.when refuse
    let first : RuleExpression Unit Unit Value Value MatchError :=
      .withGuard (.orElse (.orElse (.named ()) (.when (.var "x") refuse)) (.named ())) accept
    let second : RuleExpression Unit Unit Value Value MatchError :=
      .orElse (.named ()) (.orElse (.when (.var "x") refuse) (.base ⟨.wildcard, [refuse, accept]⟩))
    (first.build named).toList = (second.build named).toList ∧
      (first.build named).shape ≠ (second.build named).shape ∧
      (first.build named).Indistinguishable (second.build named) := by
  intro refuse accept named first second
  have hlist : (first.build named).toList = (second.build named).toList := rfl
  exact ⟨hlist, by decide, ((build_faithful named).2.2 first second hlist).1⟩

end GuardedRules
