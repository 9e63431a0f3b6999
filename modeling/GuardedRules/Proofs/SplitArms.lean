import GuardedRules.Proofs.Extending
import GuardedRules.Proofs.Unrecorded
import GuardedRules.Rule.Expression
import GuardedRules.Value.Pattern

/-!
# Arms as alternatives

Arms that stand behind one pattern may as well be handed out to several base rules with this
pattern, one after the other. The pattern is then matched once more for every base rule that is
reached, which shows nowhere but in the record if it is stateless. A guard that is added later
goes behind the last arm in both forms. So they come to the same, up to the record, wherever they
stand within a rule.
-/

namespace GuardedRules

variable {N σ V R ε : Type}

namespace Arm

variable {arms first rest : List (Arm σ V R ε)}

/-- The number from which arms are counted shows in the record only. -/
theorem tryInOrder_sameUpToRecord (harms : ∀ arm ∈ arms, arm.IgnoresRecord)
    (result : MatchResult V) (index start : Nat) :
    (tryInOrder result index arms).SameUpToRecord (tryInOrder result start arms) := by
  induction arms generalizing index start with
  | nil => exact fun _ _ hstate => ⟨rfl, hstate⟩
  | cons arm arms ih =>
    have hrest := ih fun other hmem => harms other (List.mem_cons_of_mem arm hmem)
    rw [tryInOrder, tryInOrder]
    refine ((harms arm List.mem_cons_self).evaluate result).bind ?_
    intro outcome
    cases outcome with
    | none => exact fun _ _ hstate => hrest (index + 1) (start + 1) _ _ hstate
    | some value => exact fun _ _ hstate => ⟨rfl, hstate⟩

/-- Later arms are tried where all arms in front of them decline. -/
theorem tryInOrder_append_sameUpToRecord (hfirst : ∀ arm ∈ first, arm.IgnoresRecord)
    (hrest : ∀ arm ∈ rest, arm.IgnoresRecord) (result : MatchResult V) (index start : Nat) :
    (tryInOrder result index (first ++ rest)).SameUpToRecord
      ((tryInOrder result index first).orTry (tryInOrder result start rest)) := by
  induction first generalizing index with
  | nil => exact fun _ _ hstate => tryInOrder_sameUpToRecord hrest result index start _ _ hstate
  | cons arm arms ih =>
    have hlater := ih fun other hmem => hfirst other (List.mem_cons_of_mem arm hmem)
    intro journal other hstate
    obtain ⟨outcome, left, reached, hleft, hreached, hsame⟩ :=
      ((hfirst arm List.mem_cons_self).evaluate result).exists_runs hstate
    rw [List.cons_append, Attempt.runFrom_orTry, runFrom_tryInOrder_cons, runFrom_tryInOrder_cons,
      hleft, hreached]
    rcases outcome with error | _ | value
    · exact ⟨rfl, hsame⟩
    · have hbehind := hlater (index + 1) (left.push (.guardDeclined index))
        (reached.push (.guardDeclined index)) hsame
      rwa [Attempt.runFrom_orTry] at hbehind
    · exact ⟨rfl, hsame⟩

end Arm

theorem BaseRule.ignoresRecord_of_stateless {pattern : Pattern σ V} {arms : List (Arm σ V R ε)}
    (hpattern : pattern.EveryExtractor Extractor.IsStateless)
    (harms : ∀ arm ∈ arms, arm.IgnoresRecord) :
    BaseRule.IgnoresRecord (⟨pattern, arms⟩ : BaseRule σ V R ε) :=
  ⟨hpattern.imp fun _ h subject => (h subject).ignoresRecord, harms⟩

namespace Rule

/-- The rule with several more arms on the base rule declared last. -/
def withGuards (rule : Rule σ V R ε) (further : List (Arm σ V R ε)) : Rule σ V R ε :=
  further.foldl withGuard rule

theorem withGuards_cons (rule : Rule σ V R ε) (arm : Arm σ V R ε) (further : List (Arm σ V R ε)) :
    rule.withGuards (arm :: further) = (rule.withGuard arm).withGuards further := rfl

theorem withGuards_base (base : BaseRule σ V R ε) (further : List (Arm σ V R ε)) :
    (Rule.base base).withGuards further = .base ⟨base.pattern, base.arms ++ further⟩ := by
  induction further generalizing base with
  | nil =>
    rw [List.append_nil]
    rfl
  | cons arm further ih =>
    rw [withGuards_cons, withGuard_base, ih, List.append_cons]
    rfl

theorem withGuards_orElse (left right : Rule σ V R ε) (further : List (Arm σ V R ε)) :
    (left.orElse right).withGuards further = left.orElse (right.withGuards further) := by
  induction further generalizing right with
  | nil => rfl
  | cons arm further ih => rw [withGuards_cons, withGuard_orElse, ih, withGuards_cons]

/-- All further arms go behind those of the base rule declared last. -/
theorem toList_withGuards {rule : Rule σ V R ε} {front : List (BaseRule σ V R ε)}
    {pattern : Pattern σ V} {arms : List (Arm σ V R ε)}
    (h : rule.toList = front ++ [⟨pattern, arms⟩]) (further : List (Arm σ V R ε)) :
    (rule.withGuards further).toList = front ++ [⟨pattern, arms ++ further⟩] := by
  induction further generalizing rule arms with
  | nil => rw [List.append_nil]; exact h
  | cons arm further ih =>
    have hguarded : (rule.withGuard arm).toList = front ++ [⟨pattern, arms ++ [arm]⟩] := by
      rw [toList_withGuard, h, addArmToLast_append arm front (List.cons_ne_nil _ _)]
      rfl
    rw [withGuards_cons, ih hguarded, List.append_cons arms arm further]

end Rule

section Splitting

variable [BEq V] [OfMatchError ε] {pattern : Pattern σ V}

namespace BaseRule

variable {first rest : List (Arm σ V R ε)}

/-- The later arms of a base rule may stand in a base rule of their own behind it. -/
theorem matchSubject_append_sameUpToRecord
    (hpattern : pattern.EveryExtractor Extractor.IsStateless)
    (hfirst : ∀ arm ∈ first, arm.IgnoresRecord) (hrest : ∀ arm ∈ rest, arm.IgnoresRecord)
    (subject : V) :
    (matchSubject ⟨pattern, first ++ rest⟩ subject).SameUpToRecord
      ((matchSubject ⟨pattern, first⟩ subject).orTry (matchSubject ⟨pattern, rest⟩ subject)) := by
  have hstep := (Pattern.isStateless_matchSubject hpattern subject).adapt (ofMatchError (ε := ε))
  have htry {arms : List (Arm σ V R ε)} (harms : ∀ arm ∈ arms, arm.IgnoresRecord)
      (bindings : Bindings V) : (Arm.tryInOrder ⟨bindings⟩ 0 arms).IgnoresRecord :=
    Arm.tryInOrder_sameUpToRecord harms ⟨bindings⟩ 0 0
  rw [matchSubject, matchSubject, matchSubject]
  refine Attempt.SameUpToRecord.trans ?_ (hstep.again ?_ ?_).symm
  · refine hstep.ignoresRecord.bind ?_
    intro matched
    cases matched with
    | none => exact fun _ _ hstate => ⟨rfl, hstate⟩
    | some bindings => exact Arm.tryInOrder_append_sameUpToRecord hfirst hrest ⟨bindings⟩ 0 0
  · intro matched
    cases matched with
    | none => exact Attempt.ignoresRecord_pure _
    | some bindings => exact htry hfirst bindings
  · intro matched
    cases matched with
    | none => exact Attempt.ignoresRecord_pure _
    | some bindings => exact htry hrest bindings

/-- The arms of a base rule may be handed out to any number of base rules, in portions of any
size. -/
theorem applyInOrder_portions_sameUpToRecord
    (hpattern : pattern.EveryExtractor Extractor.IsStateless)
    {portions : List (List (Arm σ V R ε))} (hne : portions ≠ [])
    (harms : ∀ arm ∈ portions.flatten, arm.IgnoresRecord) (subject : V) :
    (matchSubject ⟨pattern, portions.flatten⟩ subject).SameUpToRecord
      (applyInOrder subject (portions.map fun arms => ⟨pattern, arms⟩)) := by
  induction portions with
  | nil => exact absurd rfl hne
  | cons arms later ih =>
    rw [List.flatten_cons] at harms ⊢
    obtain ⟨hfirst, hlater⟩ := List.forall_mem_append.mp harms
    have hown := (ignoresRecord_of_stateless hpattern hfirst).matchSubject subject
    rw [List.map_cons, applyInOrder_cons]
    rcases later with _ | ⟨next, others⟩
    · rw [List.flatten_nil, List.append_nil]
      show Attempt.SameUpToRecord _ (Attempt.orTry _ (return none))
      rwa [Attempt.orTry_none]
    · exact (matchSubject_append_sameUpToRecord hpattern hfirst hlater subject).trans
        (Attempt.SameUpToRecord.orTry hown (ih (List.cons_ne_nil next others) hlater))

end BaseRule

namespace Rule

/-- The rules come to the same up to the record, and they still do with further arms. -/
def Interchangeable (first second : Rule σ V R ε) : Prop :=
  ∀ further : List (Arm σ V R ε), (∀ arm ∈ further, arm.IgnoresRecord) → ∀ subject,
    ((first.withGuards further).matchSubject subject).SameUpToRecord
      ((second.withGuards further).matchSubject subject)

theorem Interchangeable.matchSubject {first second : Rule σ V R ε}
    (h : first.Interchangeable second) (subject : V) :
    (first.matchSubject subject).SameUpToRecord (second.matchSubject subject) :=
  h [] (List.forall_mem_nil _) subject

theorem interchangeable_base {base : BaseRule σ V R ε} (h : base.IgnoresRecord) :
    (Rule.base base).Interchangeable (.base base) := by
  intro further hfurther subject
  have hall : BaseRule.IgnoresRecord ⟨base.pattern, base.arms ++ further⟩ :=
    ⟨h.pattern, List.forall_mem_append.mpr ⟨h.arms, hfurther⟩⟩
  rw [withGuards_base, matchSubject_base]
  exact hall.matchSubject subject

theorem Interchangeable.orElse {left other right last : Rule σ V R ε}
    (hleft : left.Interchangeable other) (hright : right.Interchangeable last) :
    (left.orElse right).Interchangeable (other.orElse last) := by
  intro further hfurther subject
  rw [withGuards_orElse, withGuards_orElse, matchSubject_eq_applyTree, matchSubject_eq_applyTree,
    applyTree_orElse, applyTree_orElse]
  simp only [← matchSubject_eq_applyTree]
  exact (hleft.matchSubject subject).orTry (hright further hfurther subject)

theorem Interchangeable.withGuard {first second : Rule σ V R ε}
    (h : first.Interchangeable second) {arm : Arm σ V R ε} (harm : arm.IgnoresRecord) :
    (first.withGuard arm).Interchangeable (second.withGuard arm) :=
  fun further hfurther => h (arm :: further) (List.forall_mem_cons.mpr ⟨harm, hfurther⟩)

/-- A base rule with several arms and base rules with one of these each may stand for one
another. -/
theorem interchangeable_split (hpattern : pattern.EveryExtractor Extractor.IsStateless)
    {arms : List (Arm σ V R ε)} (harms : ∀ arm ∈ arms, arm.IgnoresRecord)
    {alternatives : Rule σ V R ε}
    (hlist : alternatives.toList = arms.map fun arm => ⟨pattern, [arm]⟩) :
    (Rule.base ⟨pattern, arms⟩).Interchangeable alternatives := by
  intro further hfurther subject
  have harmsNe : arms ≠ [] := by
    intro hnil
    rw [hnil] at hlist
    exact alternatives.toList_ne_nil hlist
  obtain ⟨init, last, rfl⟩ : ∃ init last, arms = init ++ [last] :=
    ⟨_, _, (List.dropLast_concat_getLast harmsNe).symm⟩
  rw [List.map_append] at hlist
  -- the arms in front one by one, and the last one with all further arms behind it
  let portions := (init.map fun arm => [arm]) ++ [[last] ++ further]
  have hne : portions ≠ [] := List.append_ne_nil_of_right_ne_nil _ (List.cons_ne_nil _ _)
  have hflatten : portions.flatten = init ++ [last] ++ further := by
    rw [List.flatten_append, List.flatten_singleton, ← List.flatMap_def, List.flatMap_singleton',
      List.append_assoc]
  have hmap : (portions.map fun arms => (⟨pattern, arms⟩ : BaseRule σ V R ε)) =
      (alternatives.withGuards further).toList := by
    rw [toList_withGuards hlist, List.map_append, List.map_map]
    rfl
  have hall : ∀ arm ∈ portions.flatten, arm.IgnoresRecord := by
    rw [hflatten]
    exact List.forall_mem_append.mpr ⟨harms, hfurther⟩
  have hsplit := BaseRule.applyInOrder_portions_sameUpToRecord hpattern hne hall subject
  rw [withGuards_base, matchSubject_base, matchSubject_eq_applyInOrder, ← hmap, ← hflatten]
  exact hsplit

end Rule

/-- No code of a caller that is written down in the expression looks at the record. Nothing is
said about the rules that are called by name. -/
def RuleExpression.IgnoresRecord : RuleExpression N σ V R ε → Prop
  | .named _ => True
  | .base rule => rule.IgnoresRecord
  | .when pattern arm => BaseRule.IgnoresRecord ⟨pattern, [arm]⟩
  | .thenDo pattern action => BaseRule.IgnoresRecord ⟨pattern, [⟨otherwise, action⟩]⟩
  | .orElse left right => left.IgnoresRecord ∧ right.IgnoresRecord
  | .withGuard rule arm => rule.IgnoresRecord ∧ arm.IgnoresRecord

/-- Rules that are interchangeable may stand for one another in an expression. -/
theorem RuleExpression.interchangeable_build {first second : N → Rule σ V R ε}
    (h : ∀ name, (first name).Interchangeable (second name)) {e : RuleExpression N σ V R ε}
    (he : e.IgnoresRecord) : (e.build first).Interchangeable (e.build second) := by
  induction e with
  | named name => exact h name
  | base rule => exact Rule.interchangeable_base he
  | when pattern arm => exact Rule.interchangeable_base he
  | thenDo pattern action => exact Rule.interchangeable_base he
  | orElse left right ihLeft ihRight => exact (ihLeft he.1).orElse (ihRight he.2)
  | withGuard rule arm ih => exact (ih he.1).withGuard he.2

/-- Several arms are as good as several alternatives with the same pattern and one of these arms
each, in the same order and nested in whatever way. The one rule may be put in the place of the
other everywhere within a larger rule, and so in front of a guard that is added to it later. From
any state of the caller the outcome stays the same, and so does the state that is left. -/
theorem Rule.arms_as_alternatives (pattern : Pattern σ V) (arms : List (Arm σ V R ε))
    (hpattern : pattern.EveryExtractor Extractor.IsStateless)
    (harms : ∀ arm ∈ arms, arm.IgnoresRecord) (alternatives : Rule σ V R ε)
    (hlist : alternatives.toList = arms.map fun arm => ⟨pattern, [arm]⟩) :
    (∀ subject, ((Rule.base ⟨pattern, arms⟩).matchSubject subject).SameUpToRecord
      (alternatives.matchSubject subject)) ∧
    ∀ context : RuleExpression Unit σ V R ε, context.IgnoresRecord → ∀ subject,
      ((context.build fun _ => .base ⟨pattern, arms⟩).matchSubject subject).SameUpToRecord
        ((context.build fun _ => alternatives).matchSubject subject) := by
  have hsplit : (Rule.base ⟨pattern, arms⟩).Interchangeable alternatives :=
    interchangeable_split hpattern harms hlist
  refine ⟨hsplit.matchSubject, ?_⟩
  intro context hcontext
  exact (RuleExpression.interchangeable_build (fun _ => hsplit) hcontext).matchSubject

/-- Two arms that count their calls decline, and so does one in front of them. A guard that is
added to the whole rule gives the count. -/
theorem Rule.arms_as_alternatives_counted :
    let counting : Arm Nat Value Nat MatchError :=
      ⟨fun _ => do
        modify fun journal => { journal with state := journal.state + 1 }
        return false, fun _ => return 0⟩
    let count : Arm Nat Value Nat MatchError := ⟨otherwise, fun _ => return (← get).state⟩
    let pattern := Value.tuplePattern [.var "x", .aliased "y" (.var "x")]
    let several := Rule.base ⟨pattern, [counting, counting]⟩
    let alternatives := (pattern.when counting).orElse (pattern.when counting)
    let context : RuleExpression Unit Nat Value Nat MatchError :=
      .withGuard (.orElse (.when (.var "whole") counting) (.named ())) count
    let run (rule : Rule Nat Value Nat MatchError) :=
      ((context.build fun _ => rule).matchSubject (.tuple [.unit, .unit])).runFrom ⟨0, #[]⟩
    run several = (.ok (some 3), ⟨3, #[.guardDeclined 0, .noGuardSatisfied 1,
        .guardDeclined 0, .guardDeclined 1, .guardSatisfied 2]⟩) ∧
      (run alternatives).1 = .ok (some 3) ∧ (run alternatives).2.state = 3 ∧
      (run alternatives).2.events ≠ (run several).2.events := by
  intro counting count pattern several alternatives context run
  have hcounting : counting.IgnoresRecord :=
    ⟨fun _ _ _ hstate => ⟨rfl, congrArg (· + 1) hstate⟩, fun _ _ _ hstate => ⟨rfl, hstate⟩⟩
  have hcount : count.IgnoresRecord :=
    ⟨fun _ _ _ hstate => ⟨rfl, hstate⟩, fun _ _ _ hstate => ⟨congrArg Except.ok hstate, hstate⟩⟩
  have hpattern : pattern.EveryExtractor Extractor.IsStateless :=
    ⟨Extractor.IsPure.isStateless ⟨_, rfl⟩, trivial, trivial, trivial⟩
  have harms : ∀ arm ∈ [counting, counting], arm.IgnoresRecord := by
    intro arm hmem
    obtain rfl : arm = counting := by simpa using hmem
    exact hcounting
  have hcontext : context.IgnoresRecord :=
    ⟨⟨⟨trivial, List.forall_mem_singleton.mpr hcounting⟩, trivial⟩, hcount⟩
  have hsame := (arms_as_alternatives pattern [counting, counting] hpattern harms alternatives
    rfl).2 context hcontext (.tuple [.unit, .unit]) ⟨0, #[]⟩ ⟨0, #[]⟩ rfl
  have hrun (rule : Rule Nat Value Nat MatchError) : run rule =
      (BaseRule.applyInOrder (.tuple [.unit, .unit])
        (context.build fun _ => rule).toList).runFrom ⟨0, #[]⟩ := by
    show ((context.build fun _ => rule).matchSubject _).runFrom _ = _
    rw [matchSubject_eq_applyInOrder]
  have hseveral : run several = (.ok (some 3), ⟨3, #[.guardDeclined 0, .noGuardSatisfied 1,
      .guardDeclined 0, .guardDeclined 1, .guardSatisfied 2]⟩) := (hrun several).trans rfl
  have halternatives : (run alternatives).2.events = #[.guardDeclined 0, .noGuardSatisfied 1,
      .guardDeclined 0, .noGuardSatisfied 1, .guardDeclined 0, .guardSatisfied 1] := by
    rw [hrun]
    rfl
  refine ⟨hseveral, ?_, ?_, ?_⟩
  · exact hsame.1.symm.trans (congrArg Prod.fst hseveral)
  · exact hsame.2.symm.trans (congrArg (·.2.state) hseveral)
  · rw [hseveral, halternatives]
    decide

/-- An arm that looks at the record can tell the two forms apart. -/
example :
    let refuse : Arm Unit Value Nat MatchError := ⟨fun _ => return false, fun _ => return 0⟩
    let size : Arm Unit Value Nat MatchError := ⟨otherwise, fun _ => return (← get).events.size⟩
    let outcome (rule : Rule Unit Value Nat MatchError) :=
      (((rule.withGuard size).applyTree .unit).runFrom ⟨(), #[]⟩).1
    outcome (.base ⟨.wildcard, [refuse, refuse]⟩) = .ok (some 2) ∧
      outcome ((Pattern.wildcard.when refuse).orElse (Pattern.wildcard.when refuse)) =
        .ok (some 3) := ⟨rfl, rfl⟩

end Splitting

end GuardedRules
