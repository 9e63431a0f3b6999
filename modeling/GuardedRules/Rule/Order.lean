import GuardedRules.Rule.Evaluation

/-!
# Rules as ordered lists of base rules

The view `toList` reads the base rules of a rule from left to right. Every way of
building a rule has a plain meaning on that list, counting is its length, and
applying a rule is going through the list, so no more than the order of the base
rules matters. `applyTree` is evaluation along the tree itself, without a work list.
-/

namespace GuardedRules

variable {σ V R ε : Type}

namespace Rule

def toList : Rule σ V R ε → List (BaseRule σ V R ε)
  | .base rule => [rule]
  | .orElse left right => left.toList ++ right.toList

def addArmToLast (arm : Arm σ V R ε) : List (BaseRule σ V R ε) → List (BaseRule σ V R ε)
  | [] => []
  | [last] => [last.addArm arm]
  | first :: second :: rest => first :: addArmToLast arm (second :: rest)

/-- A rule has at least one base rule. -/
theorem toList_ne_nil (rule : Rule σ V R ε) : rule.toList ≠ [] := by
  induction rule with
  | base => simp [toList]
  | orElse left right ihLeft _ => simp [toList, ihLeft]

theorem addArmToLast_append (arm : Arm σ V R ε) (first : List (BaseRule σ V R ε))
    {last : List (BaseRule σ V R ε)} (h : last ≠ []) :
    addArmToLast arm (first ++ last) = first ++ addArmToLast arm last := by
  induction first with
  | nil => rfl
  | cons rule rest ih =>
    obtain ⟨next, others, eq⟩ : ∃ next others, rest ++ last = next :: others :=
      List.exists_cons_of_ne_nil (List.append_ne_nil_of_right_ne_nil rest h)
    rw [List.cons_append, eq, addArmToLast, ← eq, ih, List.cons_append]

theorem extendLast_eq_rebuild (arm : Arm σ V R ε) (passed : List (Rule σ V R ε))
    (rule : Rule σ V R ε) : extendLast arm passed rule = rebuild passed (rule.withGuard arm) := by
  induction rule generalizing passed with
  | base => rfl
  | orElse left right _ ih =>
    rw [withGuard, extendLast, extendLast, ih, ih [left]]
    rfl

@[simp]
theorem withGuard_base (rule : BaseRule σ V R ε) (arm : Arm σ V R ε) :
    (Rule.base rule).withGuard arm = .base (rule.addArm arm) := rfl

/-- The left side of a rule stays as it is; the right side gets the arm. -/
@[simp]
theorem withGuard_orElse (left right : Rule σ V R ε) (arm : Arm σ V R ε) :
    (orElse left right).withGuard arm = .orElse left (right.withGuard arm) := by
  rw [withGuard, extendLast, extendLast_eq_rebuild]
  rfl

theorem toList_withGuard (rule : Rule σ V R ε) (arm : Arm σ V R ε) :
    (rule.withGuard arm).toList = addArmToLast arm rule.toList := by
  induction rule with
  | base => rfl
  | orElse left right _ ih =>
    rw [withGuard_orElse, toList, toList, ih, addArmToLast_append arm _ right.toList_ne_nil]

def last : Rule σ V R ε → BaseRule σ V R ε
  | .base rule => rule
  | .orElse _ right => right.last

/-- One more guard reaches the base rule declared last and nothing in front of it. -/
theorem exists_front (rule : Rule σ V R ε) :
    ∃ front, rule.toList = front ++ [rule.last] ∧
      ∀ arm, (rule.withGuard arm).toList = front ++ [rule.last.addArm arm] := by
  induction rule with
  | base rule => exact ⟨[], rfl, fun _ => rfl⟩
  | orElse left right _ ih =>
    obtain ⟨front, hlist, hguarded⟩ := ih
    refine ⟨left.toList ++ front, ?_, ?_⟩
    · rw [toList, hlist, last, List.append_assoc]
    · intro arm
      rw [withGuard_orElse, toList, hguarded, last, List.append_assoc]

theorem countPending_eq (count : Nat) (pending : List (Rule σ V R ε)) :
    countPending count pending = count + (pending.flatMap toList).length := by
  fun_induction countPending count pending with
  | case1 => simp
  | case2 count rule pending ih =>
    rw [ih]
    simp [toList]
    omega
  | case3 count left right pending ih =>
    rw [ih]
    simp [toList]

theorem alternatives_eq_length (rule : Rule σ V R ε) :
    rule.alternatives = rule.toList.length := by
  simp [alternatives, countPending_eq]

end Rule

variable [BEq V] [OfMatchError ε]

def BaseRule.applyInOrder (subject : V) : List (BaseRule σ V R ε) → Attempt ε σ (Option R)
  | [] => return none
  | rule :: rest => do
    match ← rule.matchSubject subject with
    | some outcome => return some outcome
    | none => applyInOrder subject rest

namespace Rule

/-- Applies a rule along its tree: the left side, and the right side if that declines. -/
def applyTree (subject : V) : Rule σ V R ε → Attempt ε σ (Option R)
  | .base rule => rule.matchSubject subject
  | .orElse left right => do
    match ← applyTree subject left with
    | some outcome => return some outcome
    | none => applyTree subject right

theorem applyPending_eq (subject : V) (pending : List (Rule σ V R ε)) :
    applyPending subject pending =
      BaseRule.applyInOrder subject (pending.flatMap toList) := by
  fun_induction applyPending subject pending with
  | case1 => rfl
  | case2 rule pending ih =>
    simp only [ih, List.flatMap_cons, toList, List.cons_append, List.nil_append]
    rfl
  | case3 left right pending ih => simp [ih, toList]

theorem matchSubject_eq_applyInOrder (rule : Rule σ V R ε) (subject : V) :
    rule.matchSubject subject = BaseRule.applyInOrder subject rule.toList := by
  simp [matchSubject, applyPending_eq]

end Rule

end GuardedRules
