import GuardedRules.Rule.Order

/-!
# The meaning of a rule along its tree

`Rule.Yields` says by rules of inference what applying a rule comes to: a base rule
matches its pattern and tries its arms in order, and of two alternatives the right one
is applied only where the left one has declined. The work list computes just that. It is
read as the list of untried base rules, for which the choice between two attempts is
associative.
-/

namespace GuardedRules

variable {σ V R ε α : Type}

namespace Attempt

/-- Goes on to a second attempt when the first one declines. -/
def orTry (first second : Attempt ε σ (Option α)) : Attempt ε σ (Option α) := do
  match ← first with
  | some outcome => return some outcome
  | none => second

theorem runFrom_orTry (first second : Attempt ε σ (Option α)) (journal : Journal σ) :
    (first.orTry second).runFrom journal =
      match first.runFrom journal with
      | (.ok none, left) => second.runFrom left
      | (.ok (some outcome), left) => (.ok (some outcome), left)
      | (.error error, left) => (.error error, left) := by
  rw [orTry, runFrom_bind]
  rcases first.runFrom journal with ⟨_ | _ | _, left⟩ <;> rfl

theorem orTry_assoc (first second third : Attempt ε σ (Option α)) :
    (first.orTry second).orTry third = first.orTry (second.orTry third) := by
  apply Attempt.ext
  intro journal
  simp only [runFrom_orTry]
  rcases first.runFrom journal with ⟨_ | _ | _, left⟩ <;> rfl

theorem none_orTry (second : Attempt ε σ (Option α)) : orTry (return none) second = second := by
  apply Attempt.ext
  intro journal
  rw [runFrom_orTry, runFrom_pure]

theorem orTry_none (first : Attempt ε σ (Option α)) : first.orTry (return none) = first := by
  apply Attempt.ext
  intro journal
  rw [runFrom_orTry]
  rcases first.runFrom journal with ⟨_ | _ | _, left⟩ <;> rfl

end Attempt

/-- What trying arms in order comes to. -/
inductive Arm.Yields (result : MatchResult V) :
    Nat → List (Arm σ V R ε) → Journal σ → Except ε (Option R) → Journal σ → Prop
  | noneLeft (index : Nat) (journal : Journal σ) :
      Yields result index [] journal (.ok none) (journal.push (.noGuardSatisfied index))
  | guardFails {index arm arms journal error left} :
      (arm.guard result).runFrom journal = (.error error, left) →
      Yields result index (arm :: arms) journal (.error error) left
  | guardDeclines {index arm arms journal middle outcome left} :
      (arm.guard result).runFrom journal = (.ok false, middle) →
      Yields result (index + 1) arms (middle.push (.guardDeclined index)) outcome left →
      Yields result index (arm :: arms) journal outcome left
  | actionFails {index arm arms journal middle error left} :
      (arm.guard result).runFrom journal = (.ok true, middle) →
      (arm.action result).runFrom middle = (.error error, left) →
      Yields result index (arm :: arms) journal (.error error) left
  | actionSucceeds {index arm arms journal middle value left} :
      (arm.guard result).runFrom journal = (.ok true, middle) →
      (arm.action result).runFrom middle = (.ok value, left) →
      Yields result index (arm :: arms) journal (.ok (some value))
        (left.push (.guardSatisfied index))

namespace Arm

theorem runFrom_evaluate (arm : Arm σ V R ε) (result : MatchResult V) (journal : Journal σ) :
    (arm.evaluate result).runFrom journal =
      match (arm.guard result).runFrom journal with
      | (.error error, left) => (.error error, left)
      | (.ok false, left) => (.ok none, left)
      | (.ok true, middle) =>
        match (arm.action result).runFrom middle with
        | (.error error, left) => (.error error, left)
        | (.ok value, left) => (.ok (some value), left) := by
  rw [evaluate, Attempt.runFrom_bind]
  rcases (arm.guard result).runFrom journal with ⟨_ | _ | _, middle⟩
  · rfl
  · rfl
  · simp only [if_true, Attempt.runFrom_bind]
    rcases (arm.action result).runFrom middle with ⟨_ | _, left⟩ <;> rfl

theorem runFrom_tryInOrder_cons (arm : Arm σ V R ε) (arms : List (Arm σ V R ε))
    (result : MatchResult V) (index : Nat) (journal : Journal σ) :
    (tryInOrder result index (arm :: arms)).runFrom journal =
      match (arm.evaluate result).runFrom journal with
      | (.error error, left) => (.error error, left)
      | (.ok (some outcome), left) => (.ok (some outcome), left.push (.guardSatisfied index))
      | (.ok none, left) =>
        (tryInOrder result (index + 1) arms).runFrom (left.push (.guardDeclined index)) := by
  rw [tryInOrder, Attempt.runFrom_bind]
  rcases (arm.evaluate result).runFrom journal with ⟨_ | _ | _, left⟩
  · rfl
  · simp only [Attempt.runFrom_bind, Attempt.runFrom_record]
  · simp only [Attempt.runFrom_bind, Attempt.runFrom_record, Attempt.runFrom_pure]

theorem Yields.run_eq {result : MatchResult V} {index : Nat} {arms : List (Arm σ V R ε)}
    {journal left : Journal σ} {outcome : Except ε (Option R)}
    (h : Yields result index arms journal outcome left) :
    (tryInOrder result index arms).runFrom journal = (outcome, left) := by
  induction h with
  | noneLeft => rfl
  | guardFails hguard => rw [runFrom_tryInOrder_cons, runFrom_evaluate, hguard]
  | guardDeclines hguard _ ih =>
    rw [runFrom_tryInOrder_cons, runFrom_evaluate, hguard]
    exact ih
  | actionFails hguard haction =>
    rw [runFrom_tryInOrder_cons, runFrom_evaluate, hguard]
    simp only [haction]
  | actionSucceeds hguard haction =>
    rw [runFrom_tryInOrder_cons, runFrom_evaluate, hguard]
    simp only [haction]

theorem yields_run (result : MatchResult V) (index : Nat) (arms : List (Arm σ V R ε))
    (journal : Journal σ) :
    Yields result index arms journal ((tryInOrder result index arms).runFrom journal).1
      ((tryInOrder result index arms).runFrom journal).2 := by
  induction arms generalizing index journal with
  | nil => exact .noneLeft index journal
  | cons arm arms ih =>
    rw [runFrom_tryInOrder_cons, runFrom_evaluate]
    rcases hguard : (arm.guard result).runFrom journal with ⟨_ | _ | _, middle⟩
    · exact .guardFails hguard
    · exact .guardDeclines hguard (ih (index + 1) _)
    · rcases haction : (arm.action result).runFrom middle with ⟨_ | _, left⟩
      · simp only [haction]
        exact .actionFails hguard haction
      · simp only [haction]
        exact .actionSucceeds hguard haction

end Arm

variable [BEq V] [OfMatchError ε]

/-- What applying a rule to a subject comes to. -/
inductive Rule.Yields (subject : V) :
    Rule σ V R ε → Journal σ → Except ε (Option R) → Journal σ → Prop
  | patternFails {rule journal error left} :
      (rule.pattern.matchSubject subject).runFrom journal = (.error error, left) →
      Yields subject (.base rule) journal (.error (ofMatchError error)) left
  | patternDeclines {rule journal left} :
      (rule.pattern.matchSubject subject).runFrom journal = (.ok none, left) →
      Yields subject (.base rule) journal (.ok none) left
  | arms {rule journal bindings middle outcome left} :
      (rule.pattern.matchSubject subject).runFrom journal = (.ok (some bindings), middle) →
      Arm.Yields ⟨bindings⟩ 0 rule.arms middle outcome left →
      Yields subject (.base rule) journal outcome left
  | leftSucceeds {first second journal value left} :
      Yields subject first journal (.ok (some value)) left →
      Yields subject (.orElse first second) journal (.ok (some value)) left
  | leftFails {first second journal error left} :
      Yields subject first journal (.error error) left →
      Yields subject (.orElse first second) journal (.error error) left
  | leftDeclines {first second journal middle outcome left} :
      Yields subject first journal (.ok none) middle →
      Yields subject second middle outcome left →
      Yields subject (.orElse first second) journal outcome left

theorem BaseRule.runFrom_matchSubject (rule : BaseRule σ V R ε) (subject : V)
    (journal : Journal σ) :
    (rule.matchSubject subject).runFrom journal =
      match (rule.pattern.matchSubject subject).runFrom journal with
      | (.error error, left) => (.error (ofMatchError error), left)
      | (.ok none, left) => (.ok none, left)
      | (.ok (some bindings), middle) =>
        (Arm.tryInOrder ⟨bindings⟩ 0 rule.arms).runFrom middle := by
  rw [matchSubject, Attempt.runFrom_bind, Attempt.runFrom_adapt]
  rcases (rule.pattern.matchSubject subject).runFrom journal with ⟨_ | _ | _, middle⟩ <;> rfl

namespace Rule

theorem applyTree_orElse (subject : V) (first second : Rule σ V R ε) :
    applyTree subject (.orElse first second) =
      (applyTree subject first).orTry (applyTree subject second) := rfl

theorem Yields.run_eq {subject : V} {rule : Rule σ V R ε} {journal left : Journal σ}
    {outcome : Except ε (Option R)} (h : Yields subject rule journal outcome left) :
    (applyTree subject rule).runFrom journal = (outcome, left) := by
  induction h with
  | patternFails hpattern => rw [applyTree, BaseRule.runFrom_matchSubject, hpattern]
  | patternDeclines hpattern => rw [applyTree, BaseRule.runFrom_matchSubject, hpattern]
  | arms hpattern harms =>
    rw [applyTree, BaseRule.runFrom_matchSubject, hpattern]
    exact harms.run_eq
  | leftSucceeds _ ih => rw [applyTree_orElse, Attempt.runFrom_orTry, ih]
  | leftFails _ ih => rw [applyTree_orElse, Attempt.runFrom_orTry, ih]
  | leftDeclines _ _ ihFirst ihSecond =>
    rw [applyTree_orElse, Attempt.runFrom_orTry, ihFirst]
    exact ihSecond

theorem yields_run (subject : V) (rule : Rule σ V R ε) (journal : Journal σ) :
    Yields subject rule journal ((applyTree subject rule).runFrom journal).1
      ((applyTree subject rule).runFrom journal).2 := by
  induction rule generalizing journal with
  | base rule =>
    rw [applyTree, BaseRule.runFrom_matchSubject]
    rcases hpattern : (rule.pattern.matchSubject subject).runFrom journal with ⟨_ | _ | _, middle⟩
    · exact .patternFails hpattern
    · exact .patternDeclines hpattern
    · exact .arms hpattern (Arm.yields_run _ 0 rule.arms middle)
  | orElse first second ihFirst ihSecond =>
    have hfirst := ihFirst journal
    rw [applyTree_orElse, Attempt.runFrom_orTry]
    rcases hrun : (applyTree subject first).runFrom journal with ⟨_ | _ | _, middle⟩
    · rw [hrun] at hfirst
      exact .leftFails hfirst
    · rw [hrun] at hfirst
      exact .leftDeclines hfirst (ihSecond middle)
    · rw [hrun] at hfirst
      exact .leftSucceeds hfirst

/-- Applying a rule along its tree computes what it yields. -/
theorem run_applyTree_iff {subject : V} {rule : Rule σ V R ε} {journal left : Journal σ}
    {outcome : Except ε (Option R)} :
    (applyTree subject rule).runFrom journal = (outcome, left) ↔
      Yields subject rule journal outcome left := by
  refine ⟨?_, Yields.run_eq⟩
  intro h
  have hyields := yields_run subject rule journal
  rwa [h] at hyields

end Rule

theorem BaseRule.applyInOrder_cons (subject : V) (rule : BaseRule σ V R ε)
    (rest : List (BaseRule σ V R ε)) :
    applyInOrder subject (rule :: rest) =
      (rule.matchSubject subject).orTry (applyInOrder subject rest) := rfl

theorem BaseRule.applyInOrder_append (subject : V) (first second : List (BaseRule σ V R ε)) :
    applyInOrder subject (first ++ second) =
      (applyInOrder subject first).orTry (applyInOrder subject second) := by
  induction first with
  | nil => exact (Attempt.none_orTry _).symm
  | cons rule rest ih =>
    rw [List.cons_append, applyInOrder_cons, applyInOrder_cons, ih, Attempt.orTry_assoc]

namespace Rule

/-- Going along the tree is going through its base rules from left to right. -/
theorem applyTree_eq_applyInOrder (subject : V) (rule : Rule σ V R ε) :
    applyTree subject rule = BaseRule.applyInOrder subject rule.toList := by
  induction rule with
  | base rule => exact (Attempt.orTry_none _).symm
  | orElse first second ihFirst ihSecond =>
    rw [applyTree_orElse, ihFirst, ihSecond, toList, BaseRule.applyInOrder_append]

theorem matchSubject_eq_applyTree (rule : Rule σ V R ε) (subject : V) :
    rule.matchSubject subject = applyTree subject rule := by
  rw [matchSubject_eq_applyInOrder, applyTree_eq_applyInOrder]

end Rule

end GuardedRules
