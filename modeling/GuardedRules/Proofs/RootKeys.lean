import GuardedRules.Proofs.Exhaustion
import GuardedRules.Proofs.Instances
import GuardedRules.Proofs.PatternRuns

/-!
# Alternatives with different roots

A pattern with a root key declines every value that does not show this key at its root, before
it looks at the number of fields or runs anything else. Of the base rules of a rule only those
with the key of the subject matter then, in their own order, and the others may stand anywhere.
-/

namespace GuardedRules

open Template (RootKey)

variable {ε σ V R : Type}

def Value.rootKey? : Value → Option RootKey
  | .tuple items => some (.length items.length)
  | .data tag _ => some (.tag tag)
  | _ => none

/-- The pattern asks for a root: it is one of a variant or of a tuple, with any sub-patterns, or
an alias of such a pattern. -/
inductive Pattern.HasRootKey : Pattern σ Value → RootKey → Prop
  | variant (v : Variant) (children : List (Pattern σ Value)) :
      HasRootKey (v.pattern children) (.tag v.tag)
  | tuple (children : List (Pattern σ Value)) :
      HasRootKey (Value.tuplePattern children) (.length children.length)
  | aliased (name : String) {inner : Pattern σ Value} {key : RootKey} :
      HasRootKey inner key → HasRootKey (.aliased name inner) key

theorem Template.hasRootKey_of_rootKey? {t : Template} {key : RootKey} (h : t.rootKey? = some key) :
    (t.toPattern (σ := σ)).HasRootKey key := by
  induction t using Template.induction with
  | wildcard => cases h
  | var name => cases h
  | aliased name inner ih => exact .aliased name (ih h)
  | equality value => cases h
  | tuple children =>
    cases h
    have hlength : (children.map (toPattern (σ := σ))).length = children.length := List.length_map _
    rw [toPattern, toPatterns_eq_map, ← hlength]
    exact .tuple _
  | variant v children =>
    cases h
    exact .variant v _

namespace Pattern

/-- A pattern declines every value with another root, whatever its sub-patterns are. -/
theorem HasRootKey.declines {p : Pattern σ Value} {key : RootKey} (h : p.HasRootKey key)
    {subject : Value} (hroot : subject.rootKey? ≠ some key) (journal : Journal σ) :
    ((p.matchSubject subject).runFrom journal).1 = .ok none := by
  induction h with
  | variant v children =>
    have hextract : Variant.extract v.tag subject = none := by
      rcases hfields : Variant.extract v.tag subject with _ | fields
      · rfl
      · obtain rfl := Variant.extract_eq_some_iff.mp hfields
        exact absurd rfl hroot
    rw [Variant.pattern, runFrom_constructor, hextract]
    rfl
  | tuple children =>
    have hextract : Value.extractTuple children.length subject = none := by
      rcases hitems : Value.extractTuple children.length subject with _ | items
      · rfl
      · obtain ⟨rfl, hlength⟩ := Value.extractTuple_eq_some_iff.mp hitems
        rw [← hlength] at hroot
        exact absurd rfl hroot
    rw [Value.tuplePattern, runFrom_constructor, hextract]
    rfl
  | @aliased name inner _ _ ih =>
    have hinner := ih hroot
    rw [runFrom_aliased]
    rcases hrun : (inner.matchSubject subject).runFrom journal with ⟨outcome, left⟩
    rw [hrun] at hinner
    obtain rfl : outcome = .ok none := hinner
    rfl

end Pattern

namespace BaseRule

/-- Base rules that decline can be left out. -/
theorem outcome_applyInOrder_filter [BEq V] [OfMatchError ε] {subject : V}
    {rules : List (BaseRule σ V R ε)} (hsteady : ∀ rule ∈ rules, rule.IsSteady)
    {keep : BaseRule σ V R ε → Bool} {journal : Journal σ}
    (hdeclines : ∀ rule ∈ rules, keep rule = false →
      ((rule.matchSubject subject).runFrom journal).1 = .ok none) :
    ((applyInOrder subject rules).runFrom journal).1 =
      ((applyInOrder subject (rules.filter keep)).runFrom journal).1 := by
  induction rules with
  | nil => rfl
  | cons rule rest ih =>
    have hrestSteady := fun other hmem => hsteady other (List.mem_cons_of_mem rule hmem)
    have hrestDeclines := fun other hmem => hdeclines other (List.mem_cons_of_mem rule hmem)
    have hkeptSteady : ∀ other ∈ rest.filter keep, other.IsSteady :=
      fun other hmem => hrestSteady other (List.mem_filter.mp hmem |>.1)
    rw [applyInOrder_cons, Attempt.outcome_orTry (isSteady_applyInOrder hrestSteady subject),
      ih hrestSteady hrestDeclines]
    cases hkeep : keep rule with
    | true =>
      rw [List.filter_cons_of_pos hkeep, applyInOrder_cons,
        Attempt.outcome_orTry (isSteady_applyInOrder hkeptSteady subject)]
    | false =>
      rw [List.filter_cons_of_neg (by simp [hkeep]), hdeclines rule List.mem_cons_self hkeep]
      rfl

theorem declines_of_hasRootKey [OfMatchError ε] {rule : BaseRule σ Value R ε} {key : RootKey}
    (h : rule.pattern.HasRootKey key) {subject : Value} (hroot : subject.rootKey? ≠ some key)
    (journal : Journal σ) :
    ((rule.matchSubject subject).runFrom journal).1 = .ok none := by
  have hpattern := h.declines hroot journal
  rw [runFrom_matchSubject]
  rcases hrun : (rule.pattern.matchSubject subject).runFrom journal with ⟨outcome, left⟩
  rw [hrun] at hpattern
  obtain rfl : outcome = .ok none := hpattern
  rfl

end BaseRule

namespace Rule

variable [OfMatchError ε] {first second : Rule σ Value R ε} {keyOf : BaseRule σ Value R ε → RootKey}

/-- A rule of base rules with root keys is decided by those with the key of the subject. -/
theorem outcome_eq_of_hasRootKey (rule : Rule σ Value R ε)
    (hsteady : ∀ base ∈ rule.toList, base.IsSteady)
    (hkeys : ∀ base ∈ rule.toList, base.pattern.HasRootKey (keyOf base)) (subject : Value)
    (journal : Journal σ) :
    let relevant := rule.toList.filter fun base => subject.rootKey? = some (keyOf base)
    ((rule.matchSubject subject).runFrom journal).1 =
      ((BaseRule.applyInOrder subject relevant).runFrom journal).1 := by
  intro relevant
  rw [matchSubject_eq_applyInOrder]
  refine BaseRule.outcome_applyInOrder_filter hsteady ?_
  intro base hmem hother
  exact base.declines_of_hasRootKey (hkeys base hmem) (of_decide_eq_false hother) journal

/-- Base rules with root keys may be put into any order, as long as those with the same key stay
in theirs: the rule has the same outcome, and so has a matcher that expects an answer. -/
theorem outcome_eq_of_reordered
    (hsteady : ∀ base ∈ first.toList, base.IsSteady)
    (hkeys : ∀ base ∈ first.toList, base.pattern.HasRootKey (keyOf base))
    (hperm : second.toList.Perm first.toList)
    (horder : ∀ key, (second.toList.filter fun base => keyOf base = key) =
      first.toList.filter fun base => keyOf base = key)
    (subject : Value) (journal other : Journal σ) :
    ((first.matchSubject subject).runFrom journal).1 =
        ((second.matchSubject subject).runFrom other).1 ∧
      (((matchOn subject).against first).runFrom journal).1 =
        (((matchOn subject).against second).runFrom other).1 := by
  have hsteady' : ∀ base ∈ second.toList, base.IsSteady :=
    fun base hmem => hsteady base (hperm.mem_iff.mp hmem)
  have hkeys' : ∀ base ∈ second.toList, base.pattern.HasRootKey (keyOf base) :=
    fun base hmem => hkeys base (hperm.mem_iff.mp hmem)
  have hsame : (first.toList.filter fun base => subject.rootKey? = some (keyOf base)) =
      second.toList.filter fun base => subject.rootKey? = some (keyOf base) := by
    cases subject.rootKey? with
    | none =>
      have hnone (bases : List (BaseRule σ Value R ε)) :
          (bases.filter fun base => (none : Option RootKey) = some (keyOf base)) = [] :=
        List.filter_eq_nil_iff.mpr (by simp)
      rw [hnone, hnone]
    | some key => simpa only [Option.some.injEq, eq_comm] using (horder key).symm
  have houtcome : ((first.matchSubject subject).runFrom journal).1 =
      ((second.matchSubject subject).runFrom other).1 := by
    rw [first.outcome_eq_of_hasRootKey hsteady hkeys subject journal, hsame,
      ← second.outcome_eq_of_hasRootKey hsteady' hkeys' subject journal,
      second.matchSubject_eq_applyInOrder]
    exact BaseRule.isSteady_applyInOrder hsteady' subject journal other
  refine ⟨houtcome, ?_⟩
  exact Matcher.outcome_against_eq hperm.length_eq.symm houtcome

/-- The alternative for pairs, which fails, moves between two alternatives for leaves in a tree of
another shape. A leaf without a field still comes to the same failure, and a unit to the same
number of alternatives. -/
theorem outcome_eq_of_reordered_failing :
    let leaf := Template.variant ⟨"Leaf", 1⟩ [.var "x"]
    let pair := Template.aliased "p" (.tuple [.var "x", .wildcard])
    let decline : Arm Unit Value Nat MatchError := ⟨fun _ => return false, fun _ => return 0⟩
    let answer : Arm Unit Value Nat MatchError := ⟨otherwise, fun _ => return 1⟩
    let refuse : Arm Unit Value Nat MatchError := ⟨otherwise, fun _ => throw (.action "a pair")⟩
    let first := (leaf.toPattern.when decline).orElse
      ((leaf.toPattern.when answer).orElse (pair.toPattern.when refuse))
    let second := ((leaf.toPattern.when decline).orElse (pair.toPattern.when refuse)).orElse
      (leaf.toPattern.when answer)
    let outcome (rule : Rule Unit Value Nat MatchError) (subject : Value) :=
      (((matchOn subject).against rule).runFrom ⟨(), #[]⟩).1
    outcome first (.data "Leaf" []) = .error (.arityMismatch "leaf" 1 0) ∧
      outcome second (.data "Leaf" []) = .error (.arityMismatch "leaf" 1 0) ∧
      outcome first .unit = .error (.noMatch 3) ∧ outcome second .unit = .error (.noMatch 3) := by
  intro leaf pair decline answer refuse first second outcome
  let keyOf (base : BaseRule Unit Value Nat MatchError) : RootKey :=
    if base.pattern.variableNames = ["x"] then .tag "Leaf" else .length 2
  have hbases {good : BaseRule Unit Value Nat MatchError → Prop}
      (hdecline : good ⟨leaf.toPattern, [decline]⟩) (hanswer : good ⟨leaf.toPattern, [answer]⟩)
      (hrefuse : good ⟨pair.toPattern, [refuse]⟩) : ∀ base ∈ first.toList, good base := by
    intro base hmem
    rcases List.mem_cons.mp hmem with rfl | hrest
    · exact hdecline
    · rcases List.mem_cons.mp hrest with rfl | hlast
      · exact hanswer
      · exact List.mem_singleton.mp hlast ▸ hrefuse
  have hsteady : ∀ base ∈ first.toList, base.IsSteady := by
    have hsingle (t : Template) {arm : Arm Unit Value Nat MatchError} (harm : arm.IsSteady) :
        BaseRule.IsSteady ⟨t.toPattern, [arm]⟩ :=
      ⟨t.toPattern_pure.imp fun _ => Extractor.IsPure.isSteady, List.forall_mem_singleton.mpr harm⟩
    refine hbases (hsingle leaf ?_) (hsingle leaf ?_) (hsingle pair ?_)
    all_goals exact ⟨fun _ _ _ => rfl, fun _ _ _ => rfl⟩
  have hkeys : ∀ base ∈ first.toList, base.pattern.HasRootKey (keyOf base) := by
    have hleaf : (leaf.toPattern (σ := Unit)).HasRootKey (.tag "Leaf") :=
      Template.hasRootKey_of_rootKey? rfl
    have hpair : (pair.toPattern (σ := Unit)).HasRootKey (.length 2) :=
      Template.hasRootKey_of_rootKey? rfl
    exact hbases hleaf hleaf hpair
  have hperm : second.toList.Perm first.toList := .cons _ (.swap _ _ [])
  have horder (key : RootKey) : (second.toList.filter fun base => keyOf base = key) =
      first.toList.filter fun base => keyOf base = key := by
    cases key <;> rfl
  have hsame (subject : Value) : outcome first subject = outcome second subject :=
    (outcome_eq_of_reordered hsteady hkeys hperm horder subject _ _).2
  have hmalformed : outcome first (.data "Leaf" []) = .error (.arityMismatch "leaf" 1 0) := by
    show (((matchOn _).against first).runFrom _).1 = _
    rw [Matcher.runFrom_against, Matcher.tryAgainst, matchSubject_eq_applyInOrder]
    rfl
  have hunit : outcome first .unit = .error (.noMatch 3) := by
    show (((matchOn _).against first).runFrom _).1 = _
    rw [Matcher.runFrom_against, Matcher.tryAgainst, matchSubject_eq_applyInOrder]
    rfl
  exact ⟨hmalformed, (hsame _).symm.trans hmalformed, hunit, (hsame _).symm.trans hunit⟩

end Rule

end GuardedRules
