import GuardedRules.Proofs.RuleSemantics
import GuardedRules.Pattern.Extractors

/-!
# Properties that sequences inherit

Matching and the application of rules are put together from pure steps, traces, failures for
wrong numbers of components and the code of a caller. A property of attempts that sequences
inherit from their parts therefore holds of all of them as soon as it holds of these. The
inductions over patterns, arms and base rules are made here once for all such properties.
-/

namespace GuardedRules

variable {ε σ V R α : Type}

def Event.IsTrace (event : Event) : Prop := event.level = .trace

/-- A property that sequences inherit from their parts and that pure steps and traces have. -/
structure Attempt.Composes (holds : (α : Type) → Attempt ε σ α → Prop) : Prop where
  pure : ∀ {α : Type} (value : α), holds α (pure value)
  record : ∀ {event : Event}, event.IsTrace → holds Unit (record event)
  bind : ∀ {α β : Type} {attempt : Attempt ε σ α} {next : α → Attempt ε σ β},
    holds α attempt → (∀ value, holds β (next value)) → holds β (attempt >>= next)

/-- A trace and nothing more. -/
theorem Attempt.Composes.record_bind {holds : (α : Type) → Attempt ε σ α → Prop}
    (h : Composes holds) {event : Event} {next : Attempt ε σ α} (hnext : holds α next)
    (hevent : event.IsTrace) : holds α (GuardedRules.record event >>= fun _ => next) :=
  h.bind (h.record hevent) fun _ => hnext

theorem Attempt.Composes.orTry {holds : (α : Type) → Attempt ε σ α → Prop} (h : Composes holds)
    {first second : Attempt ε σ (Option α)} (hfirst : holds _ first) (hsecond : holds _ second) :
    holds _ (first.orTry second) := by
  refine h.bind hfirst ?_
  intro outcome
  cases outcome with
  | none => exact hsecond
  | some value => exact h.pure _

namespace Pattern

variable [BEq V] {holds : (α : Type) → Attempt MatchError σ α → Prop}

theorem composes_components (h : Attempt.Composes holds) {children : List (Pattern σ V)}
    (hchildren : ∀ child ∈ children, ∀ subject, holds _ (child.matchSubject subject))
    (name : String) (found : Bindings V) (values : List V) :
    holds _ (matchComponents name found children values) := by
  induction children generalizing found values with
  | nil => exact h.pure _
  | cons child rest ih =>
    rcases values with _ | ⟨value, values⟩
    · exact h.pure _
    · have hrest := fun other hmem => hchildren other (List.mem_cons_of_mem child hmem)
      rw [matchComponents]
      refine h.bind (hchildren child List.mem_cons_self value) ?_
      intro matched
      rcases matched with _ | bindings
      · exact h.pure _
      · rcases hmerge : found.merge bindings with conflict | merged
        · simp only [hmerge]
          exact h.record_bind (h.pure _) rfl
        · simp only [hmerge]
          exact ih hrest merged values

/-- Matching has every property that sequences inherit, if its extractors have it and so has a
failure for a wrong number of components. -/
theorem composes_matchSubject (h : Attempt.Composes holds)
    (hthrow : ∀ name expected found, holds (Option (Bindings V))
      (throw (.arityMismatch name expected found)))
    {p : Pattern σ V}
    (hp : p.EveryExtractor fun extract => ∀ subject, holds _ (liftM (extract subject)))
    (subject : V) : holds _ (p.matchSubject subject) := by
  induction p using Pattern.induction generalizing subject with
  | constructor name children extract ih =>
    have hchildren := fun child hmem => ih child hmem (everyExtractorIn_iff.mp hp.2 child hmem)
    rw [matchSubject]
    refine h.bind (hp.1 subject) ?_
    intro values
    rcases values with _ | values
    · exact h.record_bind (h.pure _) rfl
    · by_cases hlength : values.length = children.length
      · simp only [if_pos hlength]
        exact composes_components h hchildren name .empty values
      · simp only [if_neg hlength]
        exact hthrow _ _ _
  | var => exact h.pure _
  | wildcard => exact h.pure _
  | aliased name inner ih =>
    rw [matchSubject]
    refine h.bind (ih hp subject) ?_
    intro matched
    rcases matched with _ | found
    · exact h.pure _
    · rcases hmerge : (Bindings.singleton name subject).merge found with conflict | bindings
      · simp only [hmerge]
        exact h.record_bind (h.pure _) rfl
      · simp only [hmerge]
        exact h.pure _
  | equality value =>
    rw [matchSubject]
    by_cases hequal : (subject == value) = true
    · rw [if_pos hequal]
      exact h.pure _
    · rw [if_neg hequal]
      exact h.record_bind (h.pure _) rfl

end Pattern

section Rules

variable {holds : (α : Type) → Attempt ε σ α → Prop}

theorem Arm.composes_evaluate (h : Attempt.Composes holds) {arm : Arm σ V R ε}
    {result : MatchResult V} (hguard : holds _ (arm.guard result))
    (haction : holds _ (arm.action result)) : holds _ (arm.evaluate result) := by
  rw [evaluate]
  refine h.bind hguard ?_
  intro answer
  cases answer with
  | false => exact h.pure _
  | true => exact h.bind haction fun _ => h.pure _

theorem Arm.composes_tryInOrder (h : Attempt.Composes holds) {arms : List (Arm σ V R ε)}
    {result : MatchResult V} (harms : ∀ arm ∈ arms, holds _ (arm.evaluate result)) (index : Nat) :
    holds _ (tryInOrder result index arms) := by
  induction arms generalizing index with
  | nil => exact h.record_bind (h.pure _) rfl
  | cons arm arms ih =>
    have hrest := fun other hmem => harms other (List.mem_cons_of_mem arm hmem)
    rw [tryInOrder]
    refine h.bind (harms arm List.mem_cons_self) ?_
    intro outcome
    cases outcome with
    | none => exact h.record_bind (ih hrest (index + 1)) rfl
    | some value => exact h.record_bind (h.pure _) rfl

variable [BEq V] [OfMatchError ε]

theorem BaseRule.composes_matchSubject (h : Attempt.Composes holds) {rule : BaseRule σ V R ε}
    {subject : V} (hpattern : holds _ ((rule.pattern.matchSubject subject).adapt ofMatchError))
    (harms : ∀ arm ∈ rule.arms, ∀ result, holds _ (arm.evaluate result)) :
    holds _ (rule.matchSubject subject) := by
  rw [matchSubject]
  refine h.bind hpattern ?_
  intro matched
  cases matched with
  | none => exact h.pure _
  | some bindings => exact Arm.composes_tryInOrder h (fun arm hmem => harms arm hmem ⟨bindings⟩) 0

theorem BaseRule.composes_applyInOrder (h : Attempt.Composes holds)
    {rules : List (BaseRule σ V R ε)} {subject : V}
    (hrules : ∀ rule ∈ rules, holds _ (rule.matchSubject subject)) :
    holds _ (applyInOrder subject rules) := by
  induction rules with
  | nil => exact h.pure _
  | cons rule rest ih =>
    have hrest := fun other hmem => hrules other (List.mem_cons_of_mem rule hmem)
    rw [applyInOrder_cons]
    exact h.orTry (hrules rule List.mem_cons_self) (ih hrest)

end Rules

end GuardedRules
