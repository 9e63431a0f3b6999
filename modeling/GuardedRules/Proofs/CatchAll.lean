import GuardedRules.Proofs.BoundNames
import GuardedRules.Proofs.Exhaustion
import GuardedRules.Proofs.ValueEquality

/-!
# Catch-all alternatives

A pattern of variables, aliases and wildcards takes any subject. The one thing it can stumble
over is a name in two places, for then the subject is compared with itself, and a NaN in it
makes it differ from itself. A base rule with such a pattern and a guard that always holds
never declines, so a rule that has one always comes to an end there or before, and what
stands behind it is never looked at.
-/

namespace GuardedRules

variable {ε σ V R C α : Type}

namespace Attempt

/-- The attempt has a value or fails, from whatever journal. -/
def NeverDeclines (attempt : Attempt ε σ (Option α)) : Prop :=
  ∀ journal, (attempt.runFrom journal).1 ≠ .ok none

/-- What would come next is never reached. -/
theorem NeverDeclines.orTry_eq {first : Attempt ε σ (Option α)} (h : first.NeverDeclines)
    (second : Attempt ε σ (Option α)) : first.orTry second = first := by
  apply Attempt.ext
  intro journal
  have hdecided := h journal
  rw [runFrom_orTry]
  rcases hrun : first.runFrom journal with ⟨_ | _ | _, left⟩
  · rfl
  · rw [hrun] at hdecided
    exact absurd rfl hdecided
  · rfl

theorem NeverDeclines.behind {second : Attempt ε σ (Option α)} (h : second.NeverDeclines)
    (first : Attempt ε σ (Option α)) : (first.orTry second).NeverDeclines := by
  intro journal hnone
  rw [runFrom_orTry] at hnone
  rcases hrun : first.runFrom journal with ⟨_ | _ | _, left⟩
  · rw [hrun] at hnone
    cases hnone
  · rw [hrun] at hnone
    exact h left hnone
  · rw [hrun] at hnone
    cases hnone

end Attempt

namespace Pattern

/-- The pattern is made of variables, aliases and wildcards only. -/
def Irrefutable : Pattern σ V → Prop
  | .constructor _ _ _ => False
  | .var _ => True
  | .wildcard => True
  | .aliased _ inner => Irrefutable inner
  | .equality _ => False

theorem Irrefutable.watch {p : Pattern σ V} (h : p.Irrefutable)
    (call : Nat → Option (List V) → C) (number : Nat) :
    (p.watch call number).Irrefutable ∧ (p.watch call number).mentions = p.mentions := by
  induction p using Pattern.induction with
  | constructor => exact h.elim
  | var => exact ⟨trivial, rfl⟩
  | wildcard => exact ⟨trivial, rfl⟩
  | aliased name inner ih =>
    obtain ⟨hinner, hmentions⟩ := ih h
    exact ⟨hinner, congrArg (name :: ·) hmentions⟩
  | equality => exact h.elim

variable [BEq V]

/-- A further name for what all names are bound to goes in front, if it is new or if the subject
equals itself. -/
theorem exists_merge_same {name : String} {subject : V} {found : Bindings V}
    (hfound : ∀ entry ∈ found.entries, entry.2 = subject)
    (hname : name ∉ found.names ∨ (subject == subject) = true) :
    ∃ b, (Bindings.singleton name subject).merge found = .ok b ∧
      ∀ entry ∈ b.entries, entry.2 = subject := by
  have hall : ∀ entry ∈ (name, subject) :: found.entries, entry.2 = subject :=
    List.forall_mem_cons.mpr ⟨rfl, hfound⟩
  have haccord : ((name, subject) :: found.entries).Pairwise Place.Accord := by
    refine List.pairwise_cons.mpr ⟨?_, Place.pairwise_accord_of_nodup found.nodup⟩
    intro entry hmem hsame
    have hbound : name ∈ found.names := by
      rw [show name = entry.1 from hsame]
      exact List.mem_map_of_mem hmem
    rw [hfound entry hmem]
    exact hname.resolve_left (not_not_intro hbound)
  obtain ⟨b, hb⟩ := Bindings.exists_collects haccord
  refine ⟨b, Bindings.merge_eq_ok_iff.mpr ⟨hb.accord, hb.entries_eq⟩, ?_⟩
  intro entry hmem
  rw [hb.entries_eq] at hmem
  exact hall entry (Place.mem_of_mem_firsts hmem)

theorem Irrefutable.matches_same {p : Pattern σ V} (h : p.Irrefutable) {subject : V}
    (hnames : p.mentions.Nodup ∨ (subject == subject) = true) (journal : Journal σ) :
    ∃ b, (p.matchSubject subject).runFrom journal = (.ok (some b), journal) ∧
      ∀ entry ∈ b.entries, entry.2 = subject := by
  induction p using Pattern.induction with
  | constructor => exact h.elim
  | var name =>
    refine ⟨.singleton name subject, by rw [matchSubject, Attempt.runFrom_pure], ?_⟩
    exact List.forall_mem_singleton.mpr rfl
  | wildcard =>
    refine ⟨.empty, by rw [matchSubject, Attempt.runFrom_pure], ?_⟩
    exact fun _ hmem => absurd hmem List.not_mem_nil
  | aliased name inner ih =>
    have hrest := hnames.imp_left fun hnodup => (List.nodup_cons.mp hnodup).2
    obtain ⟨found, hinner, hfound⟩ := ih h hrest
    have hfresh : name ∉ found.names ∨ (subject == subject) = true := by
      refine hnames.imp_left ?_
      intro hnodup
      rw [names_of_match inner subject journal found (congrArg Prod.fst hinner),
        mem_foldl_addName]
      simpa using (List.nodup_cons.mp hnodup).1
    obtain ⟨b, hmerge, hb⟩ := exists_merge_same hfound hfresh
    refine ⟨b, ?_, hb⟩
    rw [runFrom_aliased, hinner]
    simp only [hmerge]
  | equality => exact h.elim

/-- The pattern matches without a trace and binds all its names to the whole subject. -/
theorem Irrefutable.binds_subject {p : Pattern σ V} (h : p.Irrefutable) {subject : V}
    (hnames : p.mentions.Nodup ∨ (subject == subject) = true) (journal : Journal σ) :
    ∃ b, (p.matchSubject subject).runFrom journal = (.ok (some b), journal) ∧
      b.entries = p.variableNames.map fun name => (name, subject) := by
  obtain ⟨b, hmatch, hb⟩ := h.matches_same hnames journal
  refine ⟨b, hmatch, ?_⟩
  have hsame : b.entries = b.names.map fun name => (name, subject) := by
    rw [Bindings.names, List.map_map]
    refine (List.map_congr_left ?_).trans (List.map_id b.entries) |>.symm
    intro entry hmem
    exact Prod.ext rfl (hb entry hmem).symm
  rw [hsame, names_of_match p subject journal b (congrArg Prod.fst hmatch), variableNames,
    collectVariables_eq_foldl]

/-- A name that the inner pattern has bound already is compared with itself. -/
theorem Irrefutable.beq_self_of_merge {inner : Pattern σ V} (h : inner.Irrefutable)
    (hnodup : inner.mentions.Nodup) {name : String} (hmem : name ∈ inner.mentions) {subject : V}
    {journal : Journal σ} {found b : Bindings V}
    (hmatch : ((inner.matchSubject subject).runFrom journal).1 = .ok (some found))
    (hmerge : (Bindings.singleton name subject).merge found = .ok b) :
    (subject == subject) = true := by
  obtain ⟨other, hother, hsame⟩ := h.matches_same (.inl hnodup) journal
  rw [hother] at hmatch
  cases hmatch
  have hbound : name ∈ found.names := by
    rw [names_of_match inner subject journal found (congrArg Prod.fst hother)]
    exact mem_foldl_addName.mpr (.inr hmem)
  obtain ⟨entry, hentry, hname⟩ := List.mem_map.mp hbound
  have haccord := (Bindings.merge_eq_ok_iff.mp hmerge).1
  have hvalue := (List.pairwise_cons.mp haccord).1 entry hentry hname.symm
  rwa [hsame entry hentry] at hvalue

/-- Nothing but a name in two places keeps an irrefutable pattern from matching, and that only on
a subject that differs from itself. -/
theorem Irrefutable.matches_iff {p : Pattern σ V} (h : p.Irrefutable) {subject : V}
    {journal : Journal σ} :
    (∃ b, ((p.matchSubject subject).runFrom journal).1 = .ok (some b)) ↔
      p.mentions.Nodup ∨ (subject == subject) = true := by
  constructor
  · intro hmatches
    obtain ⟨b, hb⟩ := hmatches
    induction p using Pattern.induction generalizing b with
    | constructor => exact h.elim
    | var name => exact .inl (by simp [mentions])
    | wildcard => exact .inl List.nodup_nil
    | aliased name inner ih =>
      have hirrefutable : inner.Irrefutable := h
      obtain ⟨found, hinner, hmerge⟩ := aliased_succeeds_iff.mp hb
      rcases ih h found hinner with hnodup | hself
      · by_cases hmem : name ∈ inner.mentions
        · exact .inr (hirrefutable.beq_self_of_merge hnodup hmem hinner hmerge)
        · exact .inl (List.nodup_cons.mpr ⟨hmem, hnodup⟩)
      · exact .inr hself
    | equality => exact h.elim
  · intro hnames
    obtain ⟨b, hb, -⟩ := h.matches_same hnames journal
    exact ⟨b, congrArg Prod.fst hb⟩

/-- A NaN makes a tuple differ from itself. -/
example (journal : Journal σ) :
    ((matchSubject (.aliased "x" (.var "x")) (Value.tuple [.float ⟨0x7FF8000000000000⟩])).runFrom
      journal).1 = .ok none := rfl

end Pattern

namespace Arm

/-- The guard holds for every match and from every journal. -/
def AlwaysHolds (arm : Arm σ V R ε) : Prop :=
  ∀ result journal, ((arm.guard result).runFrom journal).1 = .ok true

theorem alwaysHolds_of_otherwise {arm : Arm σ V R ε} (h : arm.guard = otherwise) :
    arm.AlwaysHolds := by
  intro result journal
  rw [h]
  rfl

theorem AlwaysHolds.watch {arm : Arm σ V R ε} (h : arm.AlwaysHolds) (rule index : Nat) :
    (arm.watch rule index).AlwaysHolds :=
  fun result journal => h result ⟨journal.state.state, journal.events⟩

theorem AlwaysHolds.evaluate {arm : Arm σ V R ε} (h : arm.AlwaysHolds) (result : MatchResult V) :
    (arm.evaluate result).NeverDeclines := by
  intro journal hnone
  have hguard := h result journal
  rw [runFrom_evaluate] at hnone
  rcases hrun : (arm.guard result).runFrom journal with ⟨answer, middle⟩
  rw [hrun] at hguard
  obtain rfl : answer = .ok true := hguard
  rcases haction : (arm.action result).runFrom middle with ⟨_ | _, left⟩
  · simp [hrun, haction] at hnone
  · simp [hrun, haction] at hnone

/-- Arms do not all decline if the guard of one of them always holds. -/
theorem AlwaysHolds.tryInOrder {arm : Arm σ V R ε} (h : arm.AlwaysHolds)
    {arms : List (Arm σ V R ε)} (hmem : arm ∈ arms) (result : MatchResult V) (index : Nat) :
    (tryInOrder result index arms).NeverDeclines := by
  induction arms generalizing index with
  | nil => cases hmem
  | cons first rest ih =>
    intro journal hnone
    rw [runFrom_tryInOrder_cons] at hnone
    rcases hrun : (first.evaluate result).runFrom journal with ⟨_ | _ | _, left⟩
    · rw [hrun] at hnone
      cases hnone
    · rw [hrun] at hnone
      rcases List.mem_cons.mp hmem with rfl | hrest
      · exact h.evaluate result journal (congrArg Prod.fst hrun)
      · exact ih hrest (index + 1) _ hnone
    · rw [hrun] at hnone
      cases hnone

end Arm

/-- The base rule takes everything: an irrefutable pattern, and an arm for what is left. -/
structure BaseRule.CatchesAll (rule : BaseRule σ V R ε) : Prop where
  pattern : rule.pattern.Irrefutable
  arm : ∃ arm ∈ rule.arms, arm.AlwaysHolds

theorem BaseRule.CatchesAll.watch {rule : BaseRule σ V R ε} (h : rule.CatchesAll) (index : Nat) :
    (rule.watch index).CatchesAll := by
  obtain ⟨arm, hmem, harm⟩ := h.arm
  obtain ⟨position, hposition, rfl⟩ := List.getElem_of_mem hmem
  refine ⟨(h.pattern.watch _ _).1, _, ?_, harm.watch index position⟩
  exact List.mem_mapIdx.mpr ⟨position, hposition, rfl⟩

variable [BEq V] [OfMatchError ε]

theorem BaseRule.CatchesAll.neverDeclines {rule : BaseRule σ V R ε} (h : rule.CatchesAll)
    {subject : V} (hnames : rule.pattern.mentions.Nodup ∨ (subject == subject) = true) :
    (rule.matchSubject subject).NeverDeclines := by
  intro journal hnone
  obtain ⟨b, hmatch, -⟩ := h.pattern.matches_same hnames journal
  obtain ⟨arm, hmem, harm⟩ := h.arm
  rw [runFrom_matchSubject, hmatch] at hnone
  exact harm.tryInOrder hmem ⟨b⟩ 0 journal hnone

/-- What stands behind a base rule that never declines makes no difference. -/
theorem BaseRule.applyInOrder_eq_of_neverDeclines {subject : V} {base : BaseRule σ V R ε}
    (h : (base.matchSubject subject).NeverDeclines) (before after : List (BaseRule σ V R ε)) :
    applyInOrder subject (before ++ base :: after) =
      (applyInOrder subject before).orTry (base.matchSubject subject) := by
  rw [applyInOrder_append, applyInOrder_cons, h.orTry_eq]

namespace Rule

/-- Two rules come to the same on a subject, in every way of asking: from every state they have
one outcome and leave the same state and events. -/
structure SameOn (subject : V) (first second : Rule σ V R ε) : Prop where
  matchSubject : first.matchSubject subject = second.matchSubject subject
  tryAgainst : (matchOn subject).tryAgainst first = (matchOn subject).tryAgainst second
  against : (matchOn subject).against first = (matchOn subject).against second

variable {rule other : Rule σ V R ε} {before after rest : List (BaseRule σ V R ε)}
  {base : BaseRule σ V R ε} {subject : V}

theorem matchSubject_eq_of_neverDeclines (hlist : rule.toList = before ++ base :: after)
    (h : (base.matchSubject subject).NeverDeclines) :
    rule.matchSubject subject =
      (BaseRule.applyInOrder subject before).orTry (base.matchSubject subject) := by
  rw [matchSubject_eq_applyInOrder, hlist, BaseRule.applyInOrder_eq_of_neverDeclines h]

/-- A match that expects an answer goes just like one that does not, and nothing is added to its
record, if the rule never declines. -/
theorem against_of_neverDeclines (h : (rule.matchSubject subject).NeverDeclines)
    (journal : Journal σ) :
    (∃ value left, ((matchOn subject).tryAgainst rule).runFrom journal = (.ok (some value), left) ∧
      ((matchOn subject).against rule).runFrom journal = (.ok value, left)) ∨
    ∃ error left, ((matchOn subject).tryAgainst rule).runFrom journal = (.error error, left) ∧
      ((matchOn subject).against rule).runFrom journal = (.error error, left) := by
  have hdecided := h journal
  rw [Matcher.runFrom_against]
  rcases hrun : ((matchOn subject).tryAgainst rule).runFrom journal with ⟨error | _ | value, left⟩
  · exact .inr ⟨error, left, rfl, rfl⟩
  · exact absurd (congrArg Prod.fst hrun) hdecided
  · exact .inl ⟨value, left, rfl, rfl⟩

theorem sameOn_of_neverDeclines (hlist : rule.toList = before ++ base :: after)
    (hother : other.toList = before ++ base :: rest)
    (h : (base.matchSubject subject).NeverDeclines) : SameOn subject rule other := by
  have hmatch : rule.matchSubject subject = other.matchSubject subject := by
    rw [matchSubject_eq_of_neverDeclines hlist h, matchSubject_eq_of_neverDeclines hother h]
  have hrule : (rule.matchSubject subject).NeverDeclines := by
    rw [matchSubject_eq_of_neverDeclines hlist h]
    exact h.behind _
  refine ⟨hmatch, hmatch, ?_⟩
  apply Attempt.ext
  intro journal
  have hsame : ((matchOn subject).tryAgainst rule).runFrom journal =
      ((matchOn subject).tryAgainst other).runFrom journal := congrArg (·.runFrom journal) hmatch
  rcases against_of_neverDeclines hrule journal with ⟨value, left, hrun, hagainst⟩ |
    ⟨error, left, hrun, hagainst⟩
  · rw [hagainst, Matcher.runFrom_against, ← hsame, hrun]
  · rw [hagainst, Matcher.runFrom_against, ← hsame, hrun]

/-- How a base rule that takes a subject decides a rule in which other base rules stand before
it. -/
structure DecidedBy (rule : Rule σ V R ε) (before : List (BaseRule σ V R ε))
    (base : BaseRule σ V R ε) (subject : V) : Prop where
  /-- The pattern matches without a trace and binds all its names to the whole subject. -/
  binds : ∀ journal, ∃ b, (base.pattern.matchSubject subject).runFrom journal =
      (.ok (some b), journal) ∧
    b.entries = base.pattern.variableNames.map fun name => (name, subject)
  total : ((matchOn subject).tryAgainst rule).NeverDeclines
  /-- A match that expects an answer adds no error and no event of its own. -/
  never_exhausted : ∀ journal,
    (∃ value left, ((matchOn subject).tryAgainst rule).runFrom journal = (.ok (some value), left) ∧
      ((matchOn subject).against rule).runFrom journal = (.ok value, left)) ∨
    ∃ error left, ((matchOn subject).tryAgainst rule).runFrom journal = (.error error, left) ∧
      ((matchOn subject).against rule).runFrom journal = (.error error, left)
  /-- Whatever stands behind the base rule, nothing else comes of it and no other code is called. -/
  dead_behind : ∀ (other : Rule σ V R ε) (rest : List (BaseRule σ V R ε)),
    other.toList = before ++ base :: rest →
      SameOn subject rule other ∧ SameOn subject (rule.watch 0) (other.watch 0)

theorem decidedBy_of_catchesAll (hlist : rule.toList = before ++ base :: after)
    (hbase : base.CatchesAll)
    (hnames : base.pattern.mentions.Nodup ∨ (subject == subject) = true) :
    rule.DecidedBy before base subject := by
  have hdecides : (base.matchSubject subject).NeverDeclines := hbase.neverDeclines hnames
  have htotal : (rule.matchSubject subject).NeverDeclines := by
    rw [matchSubject_eq_of_neverDeclines hlist hdecides]
    exact hdecides.behind _
  refine ⟨hbase.pattern.binds_subject hnames, htotal, against_of_neverDeclines htotal, ?_⟩
  intro other rest hother
  refine ⟨sameOn_of_neverDeclines hlist hother hdecides, ?_⟩
  -- the calls are those of the watched rule, in which the base rule takes everything as well
  have hwatched : ((base.watch before.length).matchSubject subject).NeverDeclines := by
    refine (hbase.watch _).neverDeclines ?_
    rwa [BaseRule.watch, (hbase.pattern.watch _ _).2]
  exact sameOn_of_neverDeclines (toList_watch_of_append hlist) (toList_watch_of_append hother)
    hwatched

/-- A base rule of variables, aliases and wildcards with an arm for what is left decides the
whole rule, whatever stands before it or behind it. Where a name is in two places, this needs a
subject without NaN. -/
theorem decidedBy_irrefutable (rule : Rule σ Value R ε) {before after : List (BaseRule σ Value R ε)}
    {base : BaseRule σ Value R ε} (hlist : rule.toList = before ++ base :: after)
    (hpattern : base.pattern.Irrefutable) (harm : ∃ arm ∈ base.arms, arm.guard = otherwise)
    {subject : Value} (hsubject : base.pattern.mentions.Nodup ∨ subject.NaNFree) :
    rule.DecidedBy before base subject := by
  obtain ⟨arm, hmem, hguard⟩ := harm
  have hbase : base.CatchesAll := ⟨hpattern, arm, hmem, Arm.alwaysHolds_of_otherwise hguard⟩
  exact decidedBy_of_catchesAll hlist hbase (hsubject.imp_right Value.beq_self_of_nanFree)

/-- A pair is taken whole under two names, one of them in two places, after a guard has counted
its call and declined. -/
theorem decidedBy_irrefutable_pair :
    let counting : Guard Nat Value MatchError := fun _ => do
      modify fun journal => { journal with state := journal.state + 1 }
      return false
    let pair : BaseRule Nat Value Value MatchError :=
      ⟨Value.tuplePattern [.var "a", .wildcard], [⟨counting, fun _ => throw (.action "late")⟩]⟩
    let whole : BaseRule Nat Value Value MatchError :=
      ⟨.aliased "x" (.aliased "y" (.var "x")), [⟨otherwise, fun result => liftM (result.get "x")⟩]⟩
    let rule := (Rule.base pair).orElse ((Rule.base whole).orElse (.base pair))
    let subject := Value.tuple [.integer 1, .unit]
    ¬ whole.pattern.mentions.Nodup ∧ subject.NaNFree ∧ rule.DecidedBy [pair] whole subject ∧
      ((matchOn subject).against rule).runFrom ⟨0, #[]⟩ = (.ok subject, ⟨1, #[
        .guardDeclined 0, .noGuardSatisfied 1, .guardSatisfied 0]⟩) := by
  intro counting pair whole rule subject
  have hsubject : subject.NaNFree := ⟨trivial, trivial, trivial⟩
  have hlist : rule.toList = [pair] ++ whole :: [pair] := rfl
  have hdecided : rule.DecidedBy [pair] whole subject :=
    decidedBy_irrefutable rule hlist trivial ⟨_, List.mem_singleton.mpr rfl, rfl⟩ (.inr hsubject)
  refine ⟨by decide, hsubject, hdecided, ?_⟩
  rw [Matcher.runFrom_against, Matcher.tryAgainst, matchSubject_eq_applyInOrder]
  rfl

end Rule

end GuardedRules
