import GuardedRules.Proofs.Composing

/-!
# Answers that do not depend on the journal

An attempt is steady if it has the same outcome from every journal; it may well write to
it. Matching is steady if the extractors are, and rules are if their guards and actions
are too. Of steady attempts in a row only the outcomes matter: a later one comes into play
where the earlier one declines, and it does not matter what that one has left behind.
-/

namespace GuardedRules

variable {ε ε' σ V R α β : Type}

namespace Attempt

/-- The attempt has the same outcome from every journal. -/
def IsSteady (attempt : Attempt ε σ α) : Prop :=
  ∀ first second, (attempt.runFrom first).1 = (attempt.runFrom second).1

theorem isSteady_pure (value : α) : (pure value : Attempt ε σ α).IsSteady := fun _ _ => rfl

theorem isSteady_throw (error : ε) : (throw error : Attempt ε σ α).IsSteady := fun _ _ => rfl

theorem IsSteady.bind {attempt : Attempt ε σ α} {next : α → Attempt ε σ β} (h : attempt.IsSteady)
    (hnext : ∀ a, (next a).IsSteady) : (attempt >>= next).IsSteady := by
  intro first second
  have hsame := h first second
  rw [runFrom_bind, runFrom_bind]
  rcases hfirst : attempt.runFrom first with ⟨outcome, left⟩
  rcases hsecond : attempt.runFrom second with ⟨other, right⟩
  rw [hfirst, hsecond] at hsame
  obtain rfl : outcome = other := hsame
  cases outcome with
  | error error => rfl
  | ok a => exact hnext a left right

theorem composes_isSteady : Composes (fun α => IsSteady (ε := ε) (σ := σ) (α := α)) :=
  ⟨isSteady_pure, fun _ _ _ => rfl, IsSteady.bind⟩

theorem IsSteady.adapt {attempt : Attempt ε σ α} (h : attempt.IsSteady) (wrap : ε → ε') :
    IsSteady (attempt.adapt wrap : Attempt ε' σ α) := by
  intro first second
  rw [runFrom_adapt, runFrom_adapt, h first second]

end Attempt

/-- The second outcome in place of a first one that declines. -/
def settle : Except ε (Option α) → Except ε (Option α) → Except ε (Option α)
  | .ok none, second => second
  | .ok (some value), _ => .ok (some value)
  | .error error, _ => .error error

theorem Attempt.outcome_orTry {first second : Attempt ε σ (Option α)} (h : second.IsSteady)
    (journal : Journal σ) :
    ((first.orTry second).runFrom journal).1 =
      settle (first.runFrom journal).1 (second.runFrom journal).1 := by
  rw [runFrom_orTry]
  rcases first.runFrom journal with ⟨_ | _ | _, left⟩
  · rfl
  · exact h left journal
  · rfl

namespace Pattern

variable [BEq V]

/-- A pattern is as steady as its extractors are. -/
theorem isSteady_matchSubject {p : Pattern σ V} (hp : p.EveryExtractor Extractor.IsSteady)
    (subject : V) : (p.matchSubject subject).IsSteady := by
  refine composes_matchSubject Attempt.composes_isSteady (fun _ _ _ => Attempt.isSteady_throw _) ?_
    subject
  refine hp.imp ?_
  intro extract hextract value first second
  rw [Attempt.runFrom_lift, Attempt.runFrom_lift, hextract value first second]

end Pattern

structure Arm.IsSteady (arm : Arm σ V R ε) : Prop where
  guard : ∀ result, (arm.guard result).IsSteady
  action : ∀ result, (arm.action result).IsSteady

structure BaseRule.IsSteady (rule : BaseRule σ V R ε) : Prop where
  pattern : rule.pattern.EveryExtractor Extractor.IsSteady
  arms : ∀ arm ∈ rule.arms, arm.IsSteady

namespace Arm

theorem IsSteady.evaluate {arm : Arm σ V R ε} (h : arm.IsSteady) (result : MatchResult V) :
    (arm.evaluate result).IsSteady :=
  composes_evaluate Attempt.composes_isSteady (h.guard result) (h.action result)

/-- The last one of some arms is evaluated where all arms in front of it decline. -/
theorem outcome_tryInOrder_concat {arm : Arm σ V R ε} (h : arm.IsSteady) (result : MatchResult V)
    (start : Nat) (arms : List (Arm σ V R ε)) (journal : Journal σ) :
    ((tryInOrder result start (arms ++ [arm])).runFrom journal).1 =
      settle ((tryInOrder result start arms).runFrom journal).1
        ((arm.evaluate result).runFrom journal).1 := by
  induction arms generalizing start journal with
  | nil =>
    rw [List.nil_append, runFrom_tryInOrder_cons]
    rcases (arm.evaluate result).runFrom journal with ⟨_ | _ | _, left⟩ <;> rfl
  | cons first arms ih =>
    rw [List.cons_append, runFrom_tryInOrder_cons, runFrom_tryInOrder_cons]
    rcases (first.evaluate result).runFrom journal with ⟨_ | _ | _, left⟩
    · rfl
    · simp only [ih]
      rw [h.evaluate result journal]
    · rfl

theorem outcome_tryInOrder_singleton {arm : Arm σ V R ε} (h : arm.IsSteady)
    (result : MatchResult V) (journal : Journal σ) :
    ((tryInOrder result 0 [arm]).runFrom journal).1 = ((arm.evaluate result).runFrom journal).1 :=
  outcome_tryInOrder_concat h result 0 [] journal

end Arm

variable [BEq V] [OfMatchError ε]

/-- A rule with a single arm evaluates it on what its pattern matches. -/
theorem BaseRule.outcome_single (pattern : Pattern σ V) {arm : Arm σ V R ε} (harm : arm.IsSteady)
    (subject : V) (journal : Journal σ) :
    ((matchSubject ⟨pattern, [arm]⟩ subject).runFrom journal).1 =
      match ((pattern.matchSubject subject).runFrom journal).1 with
      | .error error => .error (ofMatchError error)
      | .ok none => .ok none
      | .ok (some bindings) => ((arm.evaluate ⟨bindings⟩).runFrom journal).1 := by
  rw [runFrom_matchSubject]
  rcases (pattern.matchSubject subject).runFrom journal with ⟨_ | _ | bindings, left⟩
  · rfl
  · rfl
  · simp only [Arm.outcome_tryInOrder_singleton harm]
    exact harm.evaluate ⟨bindings⟩ left journal

theorem BaseRule.IsSteady.matchSubject {rule : BaseRule σ V R ε} (h : rule.IsSteady)
    (subject : V) : (rule.matchSubject subject).IsSteady := by
  refine composes_matchSubject Attempt.composes_isSteady ?_ ?_
  · exact (Pattern.isSteady_matchSubject h.pattern subject).adapt ofMatchError
  · exact fun arm hmem => (h.arms arm hmem).evaluate

theorem BaseRule.isSteady_applyInOrder {rules : List (BaseRule σ V R ε)}
    (h : ∀ rule ∈ rules, rule.IsSteady) (subject : V) : (applyInOrder subject rules).IsSteady :=
  composes_applyInOrder Attempt.composes_isSteady
    fun rule hmem => (h rule hmem).matchSubject subject

theorem BaseRule.isSteady_single {pattern : Pattern σ V}
    (hpattern : pattern.EveryExtractor Extractor.IsSteady) {arm : Arm σ V R ε}
    (harm : arm.IsSteady) (subject : V) :
    (matchSubject ⟨pattern, [arm]⟩ subject : Attempt ε σ (Option R)).IsSteady :=
  IsSteady.matchSubject ⟨hpattern, List.forall_mem_singleton.mpr harm⟩ subject

end GuardedRules
