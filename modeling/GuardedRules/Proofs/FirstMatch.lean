import GuardedRules.Proofs.CallOrder

/-!
# The first match wins

What can be read off the calls that one application of a rule makes: an action runs right
after its own guard has held and nothing runs after it, a failure of any kind ends the
evaluation at once, and an alternative is touched only when all those left of it have
declined. The last call alone decides the outcome. All of this but the order of the
alternatives follows from the grammar of calls.
-/

namespace GuardedRules

variable {σ V R ε : Type}

namespace Call

def isGuard : Call V R ε → Bool
  | .guard _ _ _ => true
  | _ => false

def isAction : Call V R ε → Bool
  | .action _ _ _ => true
  | _ => false

/-- The error that a guard or an action has itself returned. -/
def error? : Call V R ε → Option ε
  | .guard _ _ (.error error) => some error
  | .action _ _ (.error error) => some error
  | _ => none

/-- The call ends the evaluation: it is of an action, or it comes to a failure. -/
def Ends (rules : List (BaseRule σ V R ε)) (call : Call V R ε) : Prop :=
  call.isAction = true ∨ call.error? ≠ none ∨ call.misfit? rules ≠ none

/-- The calls come to this error: the last of them has returned it, or an extractor gave a wrong
number of values and the error is made of that mismatch. -/
def FailWith [OfMatchError ε] (rules : List (BaseRule σ V R ε)) (calls : List (Call V R ε))
    (error : ε) : Prop :=
  (∃ last, calls.getLast? = some last ∧ last.error? = some error) ∨
    ∃ call ∈ calls, ∃ mismatch, call.misfit? rules = some mismatch ∧ error = ofMatchError mismatch

/-- A call without a fault in front of others changes nothing about what they come to. -/
theorem failWith_cons_iff [OfMatchError ε] {rules : List (BaseRule σ V R ε)} {call : Call V R ε}
    {calls : List (Call V R ε)} {error : ε} (herror : call.error? = none)
    (hmisfit : call.misfit? rules = none) :
    FailWith rules (call :: calls) error ↔ FailWith rules calls error := by
  cases calls with
  | nil => simp [FailWith, herror, hmisfit]
  | cons next rest => simp [FailWith, hmisfit, List.getLast?_cons_cons]

namespace Orderly

variable [OfMatchError ε] {rules : List (BaseRule σ V R ε)} {outcome : Option (Except ε R)}
  {calls before after : List (Call V R ε)} {call : Call V R ε}

/-- What is left of orderly calls from some call on is orderly, unless the cut is between a
guard that held and its action, which is then the last call. -/
theorem cut (h : Orderly rules outcome (before ++ call :: after)) :
    Orderly rules outcome (call :: after) ∨
      ∃ earlier index arm given, before = earlier ++ [.guard index arm (.ok true)] ∧
        call = .action index arm given ∧ after = [] := by
  induction before with
  | nil => exact .inl h
  | cons first before ih =>
    have hrest (hrest : Orderly rules outcome (before ++ call :: after)) :
        Orderly rules outcome (call :: after) ∨
          ∃ earlier index arm given, first :: before = earlier ++ [.guard index arm (.ok true)] ∧
            call = .action index arm given ∧ after = [] := by
      refine (ih hrest).imp_right ?_
      intro hcut
      obtain ⟨earlier, index, arm, given, rfl, hcall, hafter⟩ := hcut
      exact ⟨first :: earlier, index, arm, given, rfl, hcall, hafter⟩
    generalize hcalls : first :: before ++ call :: after = calls at h
    cases h with
    | nil => cases hcalls
    | extracts _ hlater =>
      cases hcalls
      exact hrest hlater
    | misfits => simp at hcalls
    | guardFails => simp at hcalls
    | guardDeclines hlater =>
      cases hcalls
      exact hrest hlater
    | acts index arm given =>
      obtain ⟨rfl, hlast⟩ := List.cons.inj hcalls
      obtain ⟨rfl, hlast⟩ := List.append_eq_singleton_iff.mp hlast |>.resolve_right (by simp)
      obtain ⟨rfl, rfl⟩ := List.cons.inj hlast
      exact .inr ⟨[], index, arm, given, rfl, rfl, rfl⟩

theorem action_after_guard {index arm : Nat} {given : Except ε R}
    (h : Orderly rules outcome (before ++ .action index arm given :: after)) :
    ∃ earlier, before = earlier ++ [.guard index arm (.ok true)] := by
  rcases h.cut with hrest | hcut
  · cases hrest
  · obtain ⟨earlier, _, _, _, rfl, hcall, -⟩ := hcut
    cases hcall
    exact ⟨earlier, rfl⟩

theorem nothing_after (h : Orderly rules outcome (before ++ call :: after))
    (hends : call.Ends rules) : after = [] := by
  rcases h.cut with hrest | hcut
  · cases hrest with
    | extracts hfits => simp [Ends, isAction, error?, hfits] at hends
    | misfits => rfl
    | guardFails => rfl
    | guardDeclines => simp [Ends, isAction, error?, misfit?] at hends
    | acts => simp [Ends, isAction, error?, misfit?] at hends
  · obtain ⟨_, _, _, _, -, -, hafter⟩ := hcut
    exact hafter

theorem guard_declined {index arm : Nat} {answer : Except ε Bool}
    (h : Orderly rules outcome (before ++ .guard index arm answer :: after))
    (hlater : ∃ later ∈ after, later.isGuard = true) : answer = .ok false := by
  rcases h.cut with hrest | hcut
  · cases hrest with
    | guardFails => simp at hlater
    | guardDeclines => rfl
    | acts => simp [isGuard] at hlater
  · obtain ⟨_, _, _, _, -, hcall, -⟩ := hcut
    cases hcall

theorem countP_action_le_one (h : Orderly rules outcome calls) : calls.countP isAction ≤ 1 := by
  induction h with
  | nil => simp
  | extracts _ _ ih => simpa [isAction] using ih
  | misfits => simp [isAction]
  | guardFails => simp [isAction]
  | guardDeclines _ ih => simpa [isAction] using ih
  | acts => simp [isAction]

/-- An outcome is decided exactly by a call that ends the evaluation. -/
theorem undecided_iff (h : Orderly rules outcome calls) :
    outcome = none ↔ ∀ call ∈ calls, ¬ call.Ends rules := by
  induction h with
  | nil => simp
  | extracts hfits _ ih => simp [ih, Ends, isAction, error?, hfits]
  | misfits hmisfit => simp [Ends, hmisfit]
  | guardFails => simp [Ends, error?]
  | guardDeclines _ ih => simp [ih, Ends, isAction, error?, misfit?]
  | acts => simp [Ends, isAction]

theorem succeeds_iff (h : Orderly rules outcome calls) {value : R} :
    outcome = some (.ok value) ↔ ∃ index arm, .action index arm (.ok value) ∈ calls := by
  induction h with
  | nil => simp
  | extracts _ _ ih => simp [ih]
  | misfits => simp
  | guardFails => simp
  | guardDeclines _ ih => simp [ih]
  | acts index arm given => simp [eq_comm]

theorem fails_iff (h : Orderly rules outcome calls) {error : ε} :
    outcome = some (.error error) ↔ FailWith rules calls error := by
  induction h with
  | nil => simp [FailWith]
  | extracts hfits _ ih => rw [ih, failWith_cons_iff rfl hfits]
  | misfits hmisfit => simp [FailWith, error?, hmisfit, eq_comm]
  | guardFails => simp [FailWith, error?, misfit?]
  | guardDeclines _ ih => rw [ih, failWith_cons_iff rfl rfl]
  | acts index arm given => cases given <;> simp [FailWith, error?, misfit?]

end Orderly

end Call

/-- An element of two lists in a row stands in the second one or in the first one. -/
theorem append_eq_append_cons {α : Type} {first later before after : List α} {a : α}
    (h : first ++ later = before ++ a :: after) :
    (∃ own, before = first ++ own ∧ later = own ++ a :: after) ∨
      ∃ own, first = before ++ a :: own := by
  rcases List.append_eq_append_iff.mp h with ⟨own, hbefore, hlater⟩ | ⟨own, hfirst, hlater⟩
  · exact .inl ⟨own, hbefore, hlater⟩
  · cases own with
    | nil => exact .inl ⟨[], by simpa using hfirst.symm, hlater.symm⟩
    | cons head own =>
      obtain ⟨rfl, -⟩ := List.cons.inj hlater
      exact .inr ⟨own, hfirst⟩

variable [BEq V] [OfMatchError ε]

/-- Base rules decline in turn, each from the journal that the one before it has left. -/
inductive BaseRule.DeclineInTurn (subject : V) :
    List (BaseRule σ V R ε) → Journal σ → Journal σ → Prop
  | nil (journal : Journal σ) : DeclineInTurn subject [] journal journal
  | cons {rule : BaseRule σ V R ε} {rest : List (BaseRule σ V R ε)}
      {journal middle left : Journal σ} :
      (rule.matchSubject subject).runFrom journal = (.ok none, middle) →
      DeclineInTurn subject rest middle left →
      DeclineInTurn subject (rule :: rest) journal left

/-- A call at the end of `before` is made only when the base rules left of its own have all
declined. Their calls come first, and after them there are calls of its own base rule only. -/
def BaseRule.LeftDeclined (subject : V) (rules : List (BaseRule σ V R ε)) (start : Nat)
    (journal : Journal σ) (calls before : List (Call V R ε)) (call : Call V R ε) : Prop :=
  ∃ earlier current later declined own middle,
    rules = earlier ++ current :: later ∧ call.base = start + earlier.length ∧
    DeclineInTurn subject (watchIn start earlier) (journal.watched calls)
      (Journal.watched middle (calls ++ declined)) ∧
    before = declined ++ own ∧ ∀ other ∈ own, other.base = call.base

theorem BaseRule.leftDeclined_of_own {subject : V} {rule : BaseRule σ V R ε}
    {rest : List (BaseRule σ V R ε)} {start : Nat} {journal : Journal σ}
    {calls before after : List (Call V R ε)} {call : Call V R ε}
    (hown : ∀ other ∈ before ++ call :: after, other.base = start) :
    LeftDeclined subject (rule :: rest) start journal calls before call := by
  have hcall : call.base = start := hown call (by simp)
  refine ⟨[], rule, rest, [], before, journal, rfl, hcall, ?_, rfl, ?_⟩
  · rw [List.append_nil]
    exact .nil _
  · intro other hmem
    rw [hcall]
    exact hown other (List.mem_append_left _ hmem)

/-- Applying base rules in order, no call is made before those left of its own declined. -/
theorem BaseRule.leftDeclined_of_run {subject : V} {rules : List (BaseRule σ V R ε)} {start : Nat}
    {journal left : Journal σ} {calls before after : List (Call V R ε)} {call : Call V R ε}
    {outcome : Except ε (Option R)}
    (hrun : (applyInOrder subject (watchIn start rules)).runFrom (journal.watched calls) =
      (outcome, left.watched (calls ++ (before ++ call :: after)))) :
    LeftDeclined subject rules start journal calls before call := by
  induction rules generalizing start journal calls before with
  | nil =>
    obtain ⟨-, hcalls⟩ := Journal.watched_inj.mp (Prod.mk.inj hrun).2
    simp at hcalls
  | cons rule rest ih =>
    obtain ⟨first, hown, hfirst⟩ := rule.matchSubject_watches_own start subject journal calls
    rw [watchIn_cons, applyInOrder_cons, Attempt.runFrom_orTry, hfirst] at hrun
    -- a rule that fails or succeeds has made all the calls itself
    have hstop (ended : Except ε (Option R)) (middle : Journal σ)
        (hended : (ended, middle.watched (calls ++ first)) =
          (outcome, left.watched (calls ++ (before ++ call :: after)))) :
        LeftDeclined subject (rule :: rest) start journal calls before call := by
      obtain ⟨-, hcalls⟩ := Journal.watched_inj.mp (Prod.mk.inj hended).2
      rw [List.append_cancel_left hcalls] at hown
      exact leftDeclined_of_own hown
    rcases hrule : (rule.matchSubject subject).runFrom journal with ⟨error | _ | value, middle⟩
    · rw [hrule] at hrun
      exact hstop _ _ hrun
    · rw [hrule] at hrun hfirst
      obtain ⟨later, -, hlater⟩ :=
        applyInOrder_watches_own subject (start + 1) rest middle (calls ++ first)
      have hcalls : first ++ later = before ++ call :: after := by
        have hleft := (Journal.watched_inj.mp (Prod.mk.inj (hlater.symm.trans hrun)).2).2
        rw [List.append_assoc] at hleft
        exact List.append_cancel_left hleft
      rcases append_eq_append_cons hcalls with ⟨own, rfl, -⟩ | ⟨own, hsplit⟩
      · have hrest : (applyInOrder subject (watchIn (start + 1) rest)).runFrom
            (middle.watched (calls ++ first)) =
              (outcome, left.watched (calls ++ first ++ (own ++ call :: after))) := by
          simpa only [List.append_assoc] using hrun
        obtain ⟨earlier, current, others, declined, mine, reached, rfl, hbase, hturn, rfl, hmine⟩ :=
          ih hrest
        refine ⟨rule :: earlier, current, others, first ++ declined, mine, reached, rfl, ?_, ?_,
          (List.append_assoc _ _ _).symm, hmine⟩
        · rw [hbase, List.length_cons]
          omega
        · rw [watchIn_cons, ← List.append_assoc]
          exact .cons hfirst hturn
      · rw [hsplit] at hown
        exact leftDeclined_of_own hown
    · rw [hrule] at hrun
      exact hstop _ _ hrun

/-- What the calls made by one application of a rule tell about the way it took and about its
outcome. -/
structure Rule.FirstMatchWins (rule : Rule σ V R ε) (subject : V) (journal : Journal σ)
    (calls : List (Call V R ε)) (outcome : Except ε (Option R)) : Prop where
  /-- An action is called only right after the guard of its own arm has held. -/
  action_after_guard : ∀ before index arm given after,
    calls = before ++ .action index arm given :: after →
      ∃ earlier, before = earlier ++ [.guard index arm (.ok true)]
  /-- Nothing is called after an action, nor after a failure of any kind. -/
  nothing_after : ∀ before call after, calls = before ++ call :: after →
    call.Ends rule.toList → after = []
  one_action : calls.countP Call.isAction ≤ 1
  /-- Every guard but the last one called has declined. -/
  guards_declined : ∀ before index arm answer after,
    calls = before ++ .guard index arm answer :: after →
      (∃ later ∈ after, later.isGuard = true) → answer = .ok false
  left_declined : ∀ before call after, calls = before ++ call :: after →
    BaseRule.LeftDeclined subject rule.toList 0 journal [] before call
  succeeds_iff : ∀ value, outcome = .ok (some value) ↔
    ∃ index arm, .action index arm (.ok value) ∈ calls
  fails_iff : ∀ error, outcome = .error error ↔ Call.FailWith rule.toList calls error
  declines_iff : outcome = .ok none ↔ ∀ call ∈ calls, ¬ call.Ends rule.toList

/-- Whatever the code of a caller does, the first alternative that matches and whose guard holds
decides, and nothing is called after that or after a failure. -/
theorem Rule.first_match_wins (rule : Rule σ V R ε) (subject : V) (journal : Journal σ) :
    ∃ calls,
      ((rule.watch 0).matchSubject subject).runFrom (journal.watched []) =
        (((rule.matchSubject subject).runFrom journal).1,
          ((rule.matchSubject subject).runFrom journal).2.watched calls) ∧
      rule.FirstMatchWins subject journal calls ((rule.matchSubject subject).runFrom journal).1 := by
  obtain ⟨calls, horderly, hrun⟩ := rule.matchSubject_in_order subject journal []
  refine ⟨calls, hrun, ?_⟩
  exact {
    action_after_guard := by
      rintro before index arm given after rfl
      exact horderly.action_after_guard
    nothing_after := by
      rintro before call after rfl
      exact horderly.nothing_after
    one_action := horderly.countP_action_le_one
    guards_declined := by
      rintro before index arm answer after rfl
      exact horderly.guard_declined
    left_declined := by
      rintro before call after rfl
      rw [matchSubject_eq_applyInOrder, toList_watch] at hrun
      exact BaseRule.leftDeclined_of_run hrun
    succeeds_iff := fun value => decision?_eq_ok_iff.symm.trans horderly.succeeds_iff
    fails_iff := fun error => decision?_eq_error_iff.symm.trans horderly.fails_iff
    declines_iff := decision?_eq_none_iff.symm.trans horderly.undecided_iff
  }

end GuardedRules
