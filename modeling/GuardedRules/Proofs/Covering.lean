import GuardedRules.Proofs.CatchAll
import GuardedRules.Proofs.Instances

/-!
# Rules that cover a data type

A rule covers a data type when it has one alternative for every variant, which takes the fields
into variables. Alternatives for other tags decline without running anything, so the tag of a
value singles out its alternative in whatever order they stand, and the number of fields decides
whether that one runs its action or fails. Tags are compared as declared. Only the report of a
failure writes them in small letters.
-/

namespace GuardedRules

variable {ε σ V R : Type}

section Variables

variable [BEq V]

theorem Bindings.merge_singleton_of_none {found : Bindings V} {name : String} {value : V}
    (h : found.get? name = none) :
    found.merge (singleton name value) = .ok (found.append name value h) := by
  rw [merge, singleton, List.foldlM_cons, insertAgreeing_of_none h]
  rfl

/-- Variables with names of their own take one component each. -/
theorem Pattern.runFrom_components_vars (constructor : String) {found : Bindings V}
    {names : List String} {values : List V} (hlength : values.length = names.length)
    (hnames : (found.names ++ names).Nodup) :
    ∃ b : Bindings V, b.entries = found.entries ++ names.zip values ∧
      ∀ journal : Journal σ,
        (matchComponents constructor found (names.map .var) values).runFrom journal =
          (.ok (some b), journal) := by
  induction names generalizing found values with
  | nil =>
    refine ⟨found, (List.append_nil _).symm, ?_⟩
    intro journal
    rw [List.map_nil, matchComponents, Attempt.runFrom_pure]
  | cons name rest ih =>
    obtain ⟨value, values, rfl⟩ := List.exists_cons_of_length_eq_add_one hlength
    have hfresh : found.get? name = none := by
      refine Bindings.get?_eq_none_iff.mpr ?_
      intro hmem
      exact (List.nodup_append.mp hnames).2.2 name hmem name List.mem_cons_self rfl
    have hrest : ((found.append name value hfresh).names ++ rest).Nodup := by
      have hbound : (found.append name value hfresh).names = found.names ++ [name] :=
        List.map_append
      rwa [hbound, List.append_assoc, List.singleton_append]
    obtain ⟨b, hentries, hrun⟩ := ih (Nat.succ.inj hlength) hrest
    refine ⟨b, ?_, ?_⟩
    · rw [hentries, List.zip_cons_cons, Bindings.append, List.append_assoc, List.singleton_append]
    · intro journal
      rw [List.map_cons, runFrom_components_cons, matchSubject, Attempt.runFrom_pure]
      simp only [Bindings.merge_singleton_of_none hfresh]
      exact hrun journal

end Variables

/-- The only arm of a rule for everything runs its action at once. -/
theorem Arm.tryInOrder_otherwise (result : MatchResult V) (action : Action σ V R ε) :
    tryInOrder result 0 [⟨otherwise, action⟩] = do
      let value ← action result
      record (.guardSatisfied 0)
      return some value := by
  apply Attempt.ext
  intro journal
  have hguard : ((otherwise : Guard σ V ε) result).runFrom journal = (.ok true, journal) := rfl
  rw [runFrom_tryInOrder_cons, runFrom_evaluate, hguard, Attempt.runFrom_bind]
  rcases haction : (action result).runFrom journal with ⟨_ | _, left⟩
  · simp only [haction]
  · simp only [haction]
    rfl

/-- Reports for these variants, one after the other, that they were not there. -/
def Journal.declinedBy (journal : Journal σ) (variants : List Variant) : Journal σ :=
  variants.foldl (fun left variant => left.push (.extractorDeclined (Text.lowercase variant.tag)))
    journal

namespace Variant

variable {variant : Variant} {subject : Value}

theorem runFrom_pattern_of_ne (h : subject.tag? ≠ some variant.tag)
    (children : List (Pattern σ Value)) (journal : Journal σ) :
    ((variant.pattern children).matchSubject subject).runFrom journal =
      (.ok none, journal.declinedBy [variant]) := by
  rw [pattern, Pattern.runFrom_constructor, extract_eq_none_iff.mpr h]
  rfl

theorem runFrom_pattern_data (variant : Variant) (children : List (Pattern σ Value))
    (fields : List Value) (journal : Journal σ) :
    ((variant.pattern children).matchSubject (.data variant.tag fields)).runFrom journal =
      if fields.length = children.length then
        (Pattern.matchComponents (Text.lowercase variant.tag) .empty children
          fields).runFrom journal
      else
        (.error (.arityMismatch (Text.lowercase variant.tag) children.length fields.length),
          journal) := by
  have hextract : extract variant.tag (.data variant.tag fields) = some fields :=
    extract_eq_some_iff.mpr rfl
  rw [pattern, Pattern.runFrom_constructor, hextract]
  rfl

/-- Takes data of a variant apart into variables and runs an action on them. -/
def alternative (variant : Variant) (names : List String) (action : Action σ Value R ε) :
    BaseRule σ Value R ε :=
  ⟨variant.pattern (names.map .var), [⟨otherwise, action⟩]⟩

variable [OfMatchError ε] {names : List String} {action : Action σ Value R ε} {fields : List Value}

theorem runFrom_alternative_of_ne (h : subject.tag? ≠ some variant.tag) (journal : Journal σ) :
    ((variant.alternative names action).matchSubject subject).runFrom journal =
      (.ok none, journal.declinedBy [variant]) := by
  rw [BaseRule.runFrom_matchSubject, alternative, runFrom_pattern_of_ne h]

theorem runFrom_alternative_misfit (h : fields.length ≠ names.length)
    (journal : Journal σ) :
    ((variant.alternative names action).matchSubject (.data variant.tag fields)).runFrom journal =
      (.error (ofMatchError
        (.arityMismatch (Text.lowercase variant.tag) names.length fields.length)), journal) := by
  have hmisfit : fields.length ≠ (names.map (Pattern.var (σ := σ) (V := Value))).length := by
    rwa [List.length_map]
  rw [BaseRule.runFrom_matchSubject, alternative, runFrom_pattern_data, if_neg hmisfit,
    List.length_map]

/-- The names are bound to the fields in order, and the action is all there is to run. -/
theorem exists_matchSubject_alternative (variant : Variant) (action : Action σ Value R ε)
    (hlength : fields.length = names.length) (hnames : names.Nodup) :
    ∃ bindings : Bindings Value, bindings.entries = names.zip fields ∧
      (variant.alternative names action).matchSubject (.data variant.tag fields) = do
        let value ← action ⟨bindings⟩
        record (.guardSatisfied 0)
        return some value := by
  have hempty : ((Bindings.empty : Bindings Value).names ++ names).Nodup := hnames
  obtain ⟨bindings, hentries, hrun⟩ :=
    Pattern.runFrom_components_vars (σ := σ) (Text.lowercase variant.tag) hlength hempty
  refine ⟨bindings, hentries, ?_⟩
  apply Attempt.ext
  intro journal
  rw [BaseRule.runFrom_matchSubject, alternative, runFrom_pattern_data, List.length_map,
    if_pos hlength, hrun]
  exact congrArg (·.runFrom journal) (Arm.tryInOrder_otherwise ⟨bindings⟩ action)

/-- Data of the tag is not left to other alternatives, whatever the number of its fields. -/
theorem neverDeclines_alternative (variant : Variant) (action : Action σ Value R ε)
    (fields : List Value) (hnames : names.Nodup) :
    ((variant.alternative names action).matchSubject (.data variant.tag fields)).NeverDeclines := by
  intro journal hnone
  by_cases hlength : fields.length = names.length
  · obtain ⟨bindings, -, hmatch⟩ := exists_matchSubject_alternative variant action hlength hnames
    rw [hmatch, Attempt.runFrom_bind] at hnone
    rcases haction : (action ⟨bindings⟩).runFrom journal with ⟨_ | value, left⟩
    · rw [haction] at hnone
      cases hnone
    · rw [haction] at hnone
      cases hnone
  · rw [runFrom_alternative_misfit hlength] at hnone
    cases hnone

end Variant

/-- The rule has one alternative for every variant of the data type, in this order and nested in
whatever way, and its variables are as many as the fields and have names of their own. -/
structure Rule.Covers (rule : Rule σ Value R ε) (type : DataType) (order : List Variant)
    (names : Variant → List String) (action : Variant → Action σ Value R ε) : Prop where
  perm : order.Perm type.variants
  toList_eq : rule.toList = order.map fun variant =>
    variant.alternative (names variant) (action variant)
  length_eq : ∀ variant ∈ type.variants, (names variant).length = variant.arity
  nodup : ∀ variant ∈ type.variants, (names variant).Nodup

namespace Rule.Covers

variable [OfMatchError ε] {rule : Rule σ Value R ε} {type : DataType} {order : List Variant}
  {names : Variant → List String} {action : Variant → Action σ Value R ε} {variant : Variant}
  {subject : Value} {fields : List Value}

/-- Alternatives for other tags decline one by one. -/
theorem runFrom_applyInOrder_of_ne {passed : List Variant}
    (h : ∀ other ∈ passed, subject.tag? ≠ some other.tag) (journal : Journal σ) :
    (BaseRule.applyInOrder subject (passed.map fun other =>
      other.alternative (names other) (action other))).runFrom journal =
        (.ok none, journal.declinedBy passed) := by
  induction passed generalizing journal with
  | nil => rfl
  | cons other rest ih =>
    obtain ⟨hother, hrest⟩ := List.forall_mem_cons.mp h
    rw [List.map_cons, BaseRule.applyInOrder_cons, Attempt.runFrom_orTry,
      Variant.runFrom_alternative_of_ne hother]
    exact ih hrest _

/-- Data of a declared tag comes to the alternative for this tag, and this one decides. -/
theorem exists_runFrom_tryAgainst (h : rule.Covers type order names action)
    (hmem : variant ∈ type.variants) (fields : List Value) :
    ∃ before after, order = before ++ variant :: after ∧ ∀ journal,
      ((matchOn (.data variant.tag fields)).tryAgainst rule).runFrom journal =
        ((variant.alternative (names variant) (action variant)).matchSubject
          (.data variant.tag fields)).runFrom (journal.declinedBy before) := by
  have hnodup : (order.map Variant.tag).Nodup := (h.perm.map _).nodup_iff.mpr type.nodup
  obtain ⟨before, after, rfl, hfront⟩ :=
    Variant.exists_front_of_mem hnodup (h.perm.mem_iff.mpr hmem)
  have hothers : ∀ other ∈ before,
      (Value.data variant.tag fields).tag? ≠ some other.tag := by
    intro other hother hsame
    exact hfront other hother (Option.some.inj hsame).symm
  have hdecides := variant.neverDeclines_alternative (action variant) fields
    (h.nodup variant hmem)
  have hlist := h.toList_eq
  rw [List.map_append, List.map_cons] at hlist
  refine ⟨before, after, rfl, ?_⟩
  intro journal
  rw [Matcher.tryAgainst, matchOn, matchSubject_eq_of_neverDeclines hlist hdecides,
    Attempt.runFrom_orTry, runFrom_applyInOrder_of_ne hothers]

/-- As many fields as declared are bound in order, and the action runs on them. -/
theorem against_of_fits (h : rule.Covers type order names action)
    (hmem : variant ∈ type.variants) (hlength : fields.length = variant.arity) :
    ∃ before after, order = before ++ variant :: after ∧
      ∃ bindings : Bindings Value, bindings.entries = (names variant).zip fields ∧ ∀ journal,
        ((matchOn (.data variant.tag fields)).against rule).runFrom journal =
          Attempt.runFrom (do
            let value ← action variant ⟨bindings⟩
            record (.guardSatisfied 0)
            return value) (journal.declinedBy before) := by
  obtain ⟨bindings, hentries, hmatch⟩ := variant.exists_matchSubject_alternative (action variant)
    (hlength.trans (h.length_eq variant hmem).symm) (h.nodup variant hmem)
  obtain ⟨before, after, hsplit, hrun⟩ := h.exists_runFrom_tryAgainst hmem fields
  refine ⟨before, after, hsplit, bindings, hentries, ?_⟩
  intro journal
  rw [Matcher.runFrom_against, hrun, hmatch, Attempt.runFrom_bind, Attempt.runFrom_bind]
  rcases (action variant ⟨bindings⟩).runFrom (journal.declinedBy before) with ⟨_ | value, left⟩
  · rfl
  · rfl

/-- Another number of fields than declared is an error, and no action runs. -/
theorem against_of_misfit (h : rule.Covers type order names action)
    (hmem : variant ∈ type.variants) (hlength : fields.length ≠ variant.arity) :
    ∃ before after, order = before ++ variant :: after ∧ ∀ journal,
      ((matchOn (.data variant.tag fields)).against rule).runFrom journal =
        (.error (ofMatchError
          (.arityMismatch (Text.lowercase variant.tag) variant.arity fields.length)),
          journal.declinedBy before) := by
  obtain ⟨before, after, hsplit, hrun⟩ := h.exists_runFrom_tryAgainst hmem fields
  refine ⟨before, after, hsplit, ?_⟩
  intro journal
  rw [← h.length_eq variant hmem] at hlength ⊢
  rw [Matcher.runFrom_against, hrun, Variant.runFrom_alternative_misfit hlength]

/-- A value of no declared tag exhausts the rule. -/
theorem against_of_foreign (h : rule.Covers type order names action)
    (htag : ∀ other ∈ type.variants, subject.tag? ≠ some other.tag) (journal : Journal σ) :
    ((matchOn subject).against rule).runFrom journal =
      (.error (ofMatchError (.noMatch type.variants.length)),
        (journal.declinedBy order).push (.exhausted type.variants.length)) := by
  have hothers : ∀ other ∈ order, subject.tag? ≠ some other.tag :=
    fun other hother => htag other (h.perm.mem_iff.mp hother)
  have hcount : rule.toList.length = type.variants.length := by
    rw [h.toList_eq, List.length_map, h.perm.length_eq]
  rw [Matcher.runFrom_against, Matcher.tryAgainst, matchOn, matchSubject_eq_applyInOrder,
    hcount, h.toList_eq, runFrom_applyInOrder_of_ne hothers]

end Rule.Covers

/-- Where a rule for the variants of a data type takes a value: to the action for its tag, to an
error about the number of its fields, or past all alternatives. The alternatives on the way leave
no more than their reports. -/
structure Rule.DispatchesOn [OfMatchError ε] (rule : Rule σ Value R ε) (type : DataType)
    (order : List Variant) (names : Variant → List String)
    (action : Variant → Action σ Value R ε) (subject : Value) (journal : Journal σ) : Prop where
  instances : type.isInstance subject = true →
    ∃ before variant after fields, order = before ++ variant :: after ∧
      subject = .data variant.tag fields ∧ fields.length = variant.arity ∧
      ∃ bindings : Bindings Value, bindings.entries = (names variant).zip fields ∧
        ((matchOn subject).against rule).runFrom journal =
          Attempt.runFrom (do
            let value ← action variant ⟨bindings⟩
            record (.guardSatisfied 0)
            return value) (journal.declinedBy before)
  misfits : type.isInstance subject = false →
    ∀ variant ∈ type.variants, ∀ fields, subject = .data variant.tag fields →
      ∃ before after, order = before ++ variant :: after ∧
        ((matchOn subject).against rule).runFrom journal =
          (.error (ofMatchError
            (.arityMismatch (Text.lowercase variant.tag) variant.arity fields.length)),
            journal.declinedBy before)
  foreigners : (∀ variant ∈ type.variants, subject.tag? ≠ some variant.tag) →
    ((matchOn subject).against rule).runFrom journal =
      (.error (ofMatchError (.noMatch type.variants.length)),
        (journal.declinedBy order).push (.exhausted type.variants.length))

namespace Rule.Covers

/-- One alternative for every variant is enough: every instance of the data type comes to the
action for its variant with its fields in order, and every other value to an error. -/
theorem dispatchesOn [OfMatchError ε] {rule : Rule σ Value R ε} {type : DataType}
    {order : List Variant} {names : Variant → List String}
    {action : Variant → Action σ Value R ε} (h : rule.Covers type order names action)
    (subject : Value) (journal : Journal σ) :
    rule.DispatchesOn type order names action subject journal where
  instances := by
    intro hinstance
    obtain ⟨variant, hmem, fields, rfl, hlength⟩ := DataType.isInstance_iff.mp hinstance
    obtain ⟨before, after, hsplit, bindings, hentries, hrun⟩ := h.against_of_fits hmem hlength
    exact ⟨before, variant, after, fields, hsplit, rfl, hlength, bindings, hentries, hrun journal⟩
  misfits := by
    intro hother variant hmem fields hsubject
    subst hsubject
    have hlength : fields.length ≠ variant.arity := DataType.length_ne_of_not_isInstance hmem hother
    obtain ⟨before, after, hsplit, hrun⟩ := h.against_of_misfit hmem hlength
    exact ⟨before, after, hsplit, hrun journal⟩
  foreigners := fun htag => h.against_of_foreign htag journal

/-- Of two tags that differ in case one is declared a second time, with another number of fields.
The alternatives stand in an order of their own. -/
theorem dispatchesOn_redeclared :
    let type := (((DataType.new "T").declare "A" 1).declare "a" 0).declare "A" 2
    let order : List Variant := [⟨"a", 0⟩, ⟨"A", 2⟩]
    let names (variant : Variant) := ["x", "y"].take variant.arity
    let action (variant : Variant) : Action Unit Value Value MatchError := fun result =>
      return .data variant.tag (result.bindings.entries.reverse.map Prod.snd)
    let alternative (variant : Variant) :=
      (variant.pattern ((names variant).map .var)).thenDo (action variant)
    let rule := (alternative ⟨"a", 0⟩).orElse (alternative ⟨"A", 2⟩)
    let start : Journal Unit := ⟨(), #[]⟩
    let run (subject : Value) := ((matchOn subject).against rule).runFrom start
    rule.Covers type order names action ∧
      (∀ subject, rule.DispatchesOn type order names action subject start) ∧
      run (.data "A" [.unit, .boolean true]) = (.ok (.data "A" [.boolean true, .unit]),
        ⟨(), #[.extractorDeclined "a", .guardSatisfied 0]⟩) ∧
      run (.data "A" [.unit]) = (.error (.arityMismatch "a" 2 1), ⟨(), #[.extractorDeclined "a"]⟩) ∧
      run (.data "B" []) = (.error (.noMatch 2),
        ⟨(), #[.extractorDeclined "a", .extractorDeclined "a", .exhausted 2]⟩) := by
  intro type order names action alternative rule start run
  have hcovers : rule.Covers type order names action :=
    ⟨List.Perm.swap _ _ _, rfl, by decide, by decide⟩
  refine ⟨hcovers, fun subject => hcovers.dispatchesOn subject start, ?_, ?_, ?_⟩
  · show ((matchOn _).against rule).runFrom start = _
    rw [Matcher.runFrom_against, Matcher.tryAgainst, matchSubject_eq_applyInOrder]
    rfl
  · show ((matchOn _).against rule).runFrom start = _
    rw [Matcher.runFrom_against, Matcher.tryAgainst, matchSubject_eq_applyInOrder]
    rfl
  · exact (hcovers.dispatchesOn (.data "B" []) start).foreigners (by decide)

end Rule.Covers

end GuardedRules
