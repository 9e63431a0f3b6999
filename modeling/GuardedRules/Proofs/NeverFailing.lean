import GuardedRules.Matcher
import GuardedRules.Proofs.Composing
import GuardedRules.Proofs.Instances

/-!
# Matching that cannot fail

Matching fails only where an extractor gives another number of components than there are
sub-patterns. A tuple pattern asks for the length before it looks inside. A variant pattern
does not, so a signature has to say how many fields each tag has: it is kept by the
template and by the subject, and the components that are handed to sub-patterns keep it
too. A rule then fails only if one of its guards or actions does, on what its pattern has
bound.
-/

namespace GuardedRules

variable {ε σ V R α β : Type}

namespace Attempt

/-- The attempt has this value from some journal. -/
def Gives (attempt : Attempt ε σ α) (value : α) : Prop :=
  ∃ journal, (attempt.runFrom journal).1 = .ok value

/-- The attempt has a value from every journal. -/
def NeverFails (attempt : Attempt ε σ α) : Prop :=
  ∀ journal, ∃ value, (attempt.runFrom journal).1 = .ok value

theorem neverFails_pure (value : α) : (pure value : Attempt ε σ α).NeverFails :=
  fun _ => ⟨value, rfl⟩

/-- What follows has to succeed only on the values that come before it. -/
theorem NeverFails.bind {attempt : Attempt ε σ α} {next : α → Attempt ε σ β}
    (h : attempt.NeverFails) (hnext : ∀ value, attempt.Gives value → (next value).NeverFails) :
    (attempt >>= next).NeverFails := by
  intro journal
  obtain ⟨value, hvalue⟩ := h journal
  have hrest := hnext value ⟨journal, hvalue⟩
  rw [runFrom_bind]
  rcases hrun : attempt.runFrom journal with ⟨outcome, left⟩
  rw [hrun] at hvalue
  obtain rfl : outcome = .ok value := hvalue
  exact hrest left

/-- A record and nothing more. -/
theorem neverFails_record_bind (event : Event) {next : Attempt ε σ α} (h : next.NeverFails) :
    (record event >>= fun _ => next).NeverFails :=
  NeverFails.bind (fun _ => ⟨(), rfl⟩) fun _ _ => h

theorem composes_neverFails : Composes (fun α => NeverFails (ε := ε) (σ := σ) (α := α)) :=
  ⟨neverFails_pure, fun _ _ => ⟨(), rfl⟩, fun h hnext => h.bind fun value _ => hnext value⟩

end Attempt

namespace Pattern

variable [BEq V] (Good : V → Prop) {children : List (Pattern σ V)}

theorem neverFails_components (name : String) (found : Bindings V) {values : List V}
    (hvalues : ∀ value ∈ values, Good value)
    (hchildren : ∀ child ∈ children, ∀ value, Good value → (child.matchSubject value).NeverFails) :
    (matchComponents name found children values).NeverFails := by
  induction children generalizing found values with
  | nil => exact Attempt.neverFails_pure _
  | cons child rest ih =>
    rcases values with _ | ⟨value, values⟩
    · exact Attempt.neverFails_pure _
    · have hlater := fun other hmem => hvalues other (List.mem_cons_of_mem value hmem)
      have hrest := fun other hmem => hchildren other (List.mem_cons_of_mem child hmem)
      have hvalue := hchildren child List.mem_cons_self value (hvalues value List.mem_cons_self)
      rw [matchComponents]
      refine hvalue.bind ?_
      intro matched _
      rcases matched with _ | bindings
      · exact Attempt.neverFails_pure _
      · rcases hmerge : found.merge bindings with conflict | merged
        · simp only [hmerge]
          exact Attempt.neverFails_record_bind _ (Attempt.neverFails_pure _)
        · simp only [hmerge]
          exact ih merged hlater hrest

/-- A constructor never fails on a subject that is taken apart into as many components as it
has sub-patterns, if these never fail on such components. -/
theorem neverFails_constructor (name : String) {answer : V → Option (List V)} {subject : V}
    (hextract : ∀ values, answer subject = some values →
      values.length = children.length ∧ ∀ value ∈ values, Good value)
    (hchildren : ∀ child ∈ children, ∀ value, Good value → (child.matchSubject value).NeverFails) :
    (matchSubject (.constructor name children (.ofFunction answer)) subject).NeverFails := by
  have hanswer (found : Option (List V))
      (h : (liftM (Extractor.ofFunction (σ := σ) answer subject) : Attempt MatchError σ _).Gives found) :
      answer subject = found := by
    obtain ⟨journal, hrun⟩ := h
    exact Except.ok.inj hrun
  rw [matchSubject]
  refine Attempt.NeverFails.bind (fun _ => ⟨_, rfl⟩) ?_
  intro found hgives
  rcases found with _ | values
  · exact Attempt.neverFails_record_bind _ (Attempt.neverFails_pure _)
  · obtain ⟨hlength, hvalues⟩ := hextract values (hanswer _ hgives)
    simp only [if_pos hlength]
    exact neverFails_components Good name .empty hvalues hchildren

end Pattern

variable {signature : String → Option Nat}

/-- A template that fits the signature never fails on a subject that fits it. -/
theorem Template.neverFails_toPattern {t : Template} (ht : t.Fits signature) {subject : Value}
    (hsubject : subject.Fits signature) :
    ((t.toPattern (σ := σ)).matchSubject subject).NeverFails := by
  induction t using Template.induction generalizing subject with
  | wildcard => exact Attempt.neverFails_pure _
  | var name => exact Attempt.neverFails_pure _
  | aliased name inner ih =>
    rw [toPattern, Pattern.matchSubject]
    refine (ih ht hsubject).bind ?_
    intro matched _
    rcases matched with _ | found
    · exact Attempt.neverFails_pure _
    · rcases hmerge : (Bindings.singleton name subject).merge found with conflict | bindings
      · simp only [hmerge]
        exact Attempt.neverFails_record_bind _ (Attempt.neverFails_pure _)
      · simp only [hmerge]
        exact Attempt.neverFails_pure _
  | equality value =>
    rw [toPattern, Pattern.matchSubject]
    by_cases hequal : (subject == value) = true
    · rw [if_pos hequal]
      exact Attempt.neverFails_pure _
    · rw [if_neg hequal]
      exact Attempt.neverFails_record_bind _ (Attempt.neverFails_pure _)
  | tuple children ih =>
    rw [toPattern, toPatterns_eq_map]
    refine Pattern.neverFails_constructor (Value.Fits signature) _ ?_ ?_
    · intro items hextract
      obtain ⟨rfl, hlength⟩ := Value.extractTuple_eq_some_iff.mp hextract
      exact ⟨hlength, Value.fitsAll_iff.mp hsubject⟩
    · intro child hmem item hitem
      obtain ⟨inner, hinner, rfl⟩ := List.mem_map.mp hmem
      exact ih inner hinner (fitsAll_iff.mp ht inner hinner) hitem
  | variant v children ih =>
    obtain ⟨harity, hfits⟩ := ht
    rw [toPattern, toPatterns_eq_map]
    refine Pattern.neverFails_constructor (Value.Fits signature) _ ?_ ?_
    · intro fields hextract
      obtain rfl := Variant.extract_eq_some_iff.mp hextract
      refine ⟨?_, Value.fitsAll_iff.mp hsubject.2⟩
      rw [hsubject.1 _ harity, List.length_map]
    · intro child hmem field hfield
      obtain ⟨inner, hinner, rfl⟩ := List.mem_map.mp hmem
      exact ih inner hinner (fitsAll_iff.mp hfits inner hinner) hfield

structure Arm.NeverFailsOn (arm : Arm σ V R ε) (result : MatchResult V) : Prop where
  guard : (arm.guard result).NeverFails
  action : (arm.action result).NeverFails

namespace Arm

theorem NeverFailsOn.evaluate {arm : Arm σ V R ε} {result : MatchResult V}
    (h : arm.NeverFailsOn result) : (arm.evaluate result).NeverFails :=
  composes_evaluate Attempt.composes_neverFails h.guard h.action

theorem neverFails_tryInOrder {result : MatchResult V} {arms : List (Arm σ V R ε)}
    (h : ∀ arm ∈ arms, arm.NeverFailsOn result) (index : Nat) :
    (tryInOrder result index arms).NeverFails :=
  composes_tryInOrder Attempt.composes_neverFails (fun arm hmem => (h arm hmem).evaluate) index

end Arm

section

variable [BEq V] [OfMatchError ε]

/-- A base rule never fails if its pattern does not and no arm does on what it has bound. -/
theorem BaseRule.neverFails_matchSubject {rule : BaseRule σ V R ε} {subject : V}
    (hpattern : (rule.pattern.matchSubject subject).NeverFails)
    (harms : ∀ bindings, (rule.pattern.matchSubject subject).Gives (some bindings) →
      ∀ arm ∈ rule.arms, arm.NeverFailsOn ⟨bindings⟩) :
    (rule.matchSubject subject).NeverFails := by
  intro journal
  obtain ⟨matched, hmatched⟩ := hpattern journal
  rw [runFrom_matchSubject]
  rcases hrun : (rule.pattern.matchSubject subject).runFrom journal with ⟨outcome, left⟩
  have hgives := congrArg Prod.fst hrun
  rw [hmatched] at hgives
  obtain rfl : .ok matched = outcome := hgives
  cases matched with
  | none => exact ⟨none, rfl⟩
  | some bindings => exact Arm.neverFails_tryInOrder (harms bindings ⟨journal, hmatched⟩) 0 left

theorem Rule.neverFails_matchSubject {rule : Rule σ V R ε} {subject : V}
    (h : ∀ base ∈ rule.toList, (base.matchSubject subject).NeverFails) :
    (rule.matchSubject subject).NeverFails := by
  rw [matchSubject_eq_applyInOrder]
  exact BaseRule.composes_applyInOrder Attempt.composes_neverFails h

end

/-- The pattern of a base rule is a template that fits the signature, and no guard or action
fails on what the pattern binds in this subject. -/
structure BaseRule.Fits (signature : String → Option Nat) (subject : Value)
    (rule : BaseRule σ Value R ε) : Prop where
  pattern : ∃ t : Template, t.Fits signature ∧ rule.pattern = t.toPattern
  arms : ∀ bindings, (rule.pattern.matchSubject subject).Gives (some bindings) →
    ∀ arm ∈ rule.arms, arm.NeverFailsOn ⟨bindings⟩

/-- On a subject that fits a signature no template that fits it ever fails, and neither does a
rule of such templates whose guards and actions do not fail. -/
theorem Value.Fits.matching_never_fails [OfMatchError ε] {subject : Value}
    (hsubject : subject.Fits signature) :
    (∀ t : Template, t.Fits signature →
      ((t.toPattern (σ := σ)).matchSubject subject).NeverFails) ∧
    ∀ rule : Rule σ Value R ε, (∀ base ∈ rule.toList, base.Fits signature subject) →
      ((matchOn subject).tryAgainst rule).NeverFails := by
  refine ⟨fun t ht => t.neverFails_toPattern ht hsubject, ?_⟩
  intro rule hrule
  refine Rule.neverFails_matchSubject ?_
  intro base hmem
  obtain ⟨t, ht, hpattern⟩ := (hrule base hmem).pattern
  refine BaseRule.neverFails_matchSubject ?_ (hrule base hmem).arms
  rw [hpattern]
  exact t.neverFails_toPattern ht hsubject

/-- The tags of lists are the signature, and data of another tag may have any number of fields.
The action fails where its variable is not bound, but the pattern does bind it. -/
theorem Value.Fits.matching_never_fails_list :
    let signature := fun tag => (listType.variant? tag).map Variant.arity
    let leaf (fields : List Value) := Value.data "Leaf" fields
    let subject := Value.tuple [.ofList [leaf [], leaf [.unit]], leaf [.unit, .unit]]
    let first := Template.tuple [.nil, .var "other"]
    let second := Template.tuple
      [.cons (.var "head") (.aliased "rest" (.cons .wildcard .nil)), .wildcard]
    let take (name : String) : Arm Unit Value Value MatchError :=
      ⟨otherwise, fun result => liftM (result.get name)⟩
    let rule := (first.toPattern.when (take "other")).orElse (second.toPattern.when (take "head"))
    subject.Fits signature ∧ first.Fits signature ∧ second.Fits signature ∧
      ((matchOn subject).tryAgainst rule).NeverFails := by
  intro signature leaf subject first second take rule
  have hsubject : subject.Fits signature := by
    have hcons : signature consTag = some 2 := by decide
    have hnil : signature nilTag = some 0 := by decide
    have hleaf : signature "Leaf" = none := by decide
    simp [subject, leaf, ofList, cons, nil, Fits, FitsAll, hcons, hnil, hleaf]
  have hfirst : first.Fits signature := ⟨⟨by decide, trivial⟩, trivial, trivial⟩
  have hsecond : second.Fits signature :=
    ⟨⟨by decide, trivial, ⟨by decide, trivial, ⟨by decide, trivial⟩, trivial⟩, trivial⟩,
      trivial, trivial⟩
  refine ⟨hsubject, hfirst, hsecond, ?_⟩
  refine (matching_never_fails hsubject).2 rule ?_
  intro base hmem
  rcases List.mem_cons.mp hmem with rfl | hlast
  · refine ⟨⟨first, hfirst, rfl⟩, ?_⟩
    intro bindings hgives
    obtain ⟨journal, hmatch⟩ := hgives
    cases hmatch
  · obtain rfl := List.mem_singleton.mp hlast
    refine ⟨⟨second, hsecond, rfl⟩, ?_⟩
    intro bindings hgives arm harm
    obtain ⟨journal, hmatch⟩ := hgives
    cases hmatch
    obtain rfl := List.mem_singleton.mp harm
    exact ⟨Attempt.neverFails_pure _, Attempt.neverFails_pure _⟩

/-- A cell that has lost its tail does not fit the signature of lists, and taking it apart fails. -/
example (journal : Journal Unit) (t : Template) :
    (((Template.cons t t).toPattern.matchSubject (.data Value.consTag [.unit])).runFrom journal).1 =
      .error (.arityMismatch (Text.lowercase Value.consTag) 2 1) := rfl

end GuardedRules
