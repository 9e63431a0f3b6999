import GuardedRules.Proofs.Merging
import GuardedRules.Proofs.WatchedRules

/-!
# The work list

Applying a rule with a work list takes turns: each takes one node off the list, and
every node of the rule comes onto the list at most once. So the loop ends one turn after
the nodes are used up at the latest, and it attempts no base rule twice. To see attempts
among the calls every pattern is put into a frame, a constructor that takes any subject
whole; the framed rule behaves like the rule itself and calls the extractor of a frame
once for each attempt.
-/

namespace GuardedRules

variable {σ V R ε : Type}

namespace Rule

variable [BEq V] [OfMatchError ε]

/-- One turn of the loop on a work list: what the loop comes to, or the list that is left. -/
def turn (subject : V) : List (Rule σ V R ε) → Attempt ε σ (Option R ⊕ List (Rule σ V R ε))
  | [] => return .inl none
  | .base rule :: pending => do
    match ← rule.matchSubject subject with
    | some outcome => return .inl (some outcome)
    | none => return .inr pending
  | .orElse left right :: pending => return .inr (left :: right :: pending)

/-- The loop on a work list, given up after a number of turns. -/
def takeTurns (subject : V) : Nat → List (Rule σ V R ε) → Attempt ε σ (Option (Option R))
  | 0, _ => return none
  | turns + 1, pending => do
    match ← turn subject pending with
    | .inl outcome => return some outcome
    | .inr rest => takeTurns subject turns rest

/-- The loop goes on with the list that one turn leaves. -/
theorem applyPending_eq_turn (subject : V) (pending : List (Rule σ V R ε)) :
    (applyPending subject pending : Attempt ε σ (Option R)) = (do
      match ← turn subject pending with
      | .inl outcome => return outcome
      | .inr rest => applyPending subject rest) := by
  apply Attempt.ext
  intro journal
  cases pending with
  | nil =>
    rw [applyPending, turn]
    rfl
  | cons rule pending =>
    cases rule with
    | base rule =>
      rw [applyPending, turn]
      simp only [Attempt.runFrom_bind]
      rcases (rule.matchSubject subject).runFrom journal with ⟨_ | _ | _, middle⟩ <;> rfl
    | orElse left right =>
      rw [applyPending, turn]
      rfl

/-- A turn that does not end the loop takes one node off the list. -/
theorem pendingNodes_of_turn {subject : V} {pending rest : List (Rule σ V R ε)}
    {journal left : Journal σ}
    (h : (turn subject pending).runFrom journal = (.ok (.inr rest), left)) :
    pendingNodes rest + 1 = pendingNodes pending := by
  cases pending with
  | nil =>
    rw [turn] at h
    cases h
  | cons rule pending =>
    cases rule with
    | base rule =>
      rw [turn, Attempt.runFrom_bind] at h
      rcases hrule : (rule.matchSubject subject).runFrom journal with ⟨_ | _ | _, middle⟩
      · rw [hrule] at h
        cases h
      · rw [hrule] at h
        cases h
        rw [pendingNodes, nodes, Nat.add_comm]
      · rw [hrule] at h
        cases h
    | orElse first second =>
      rw [turn] at h
      cases h
      simp only [pendingNodes, nodes]
      omega

/-- The loop ends before it has taken as many turns as there are nodes on its list and one
more, to find the list empty. -/
theorem takeTurns_eq (subject : V) {turns : Nat} {pending : List (Rule σ V R ε)}
    (h : pendingNodes pending < turns) :
    (takeTurns subject turns pending : Attempt ε σ (Option (Option R))) =
      some <$> applyPending subject pending := by
  induction turns generalizing pending with
  | zero => omega
  | succ turns ih =>
    apply Attempt.ext
    intro journal
    rw [takeTurns, applyPending_eq_turn, map_eq_pure_bind]
    simp only [Attempt.runFrom_bind]
    rcases hturn : (turn subject pending).runFrom journal with ⟨_ | outcome | rest, left⟩
    · rfl
    · rfl
    · have hnodes := pendingNodes_of_turn hturn
      have hrest : pendingNodes rest < turns := by omega
      simp only [ih hrest, map_eq_pure_bind, Attempt.runFrom_bind]

theorem takeTurns_nodes (rule : Rule σ V R ε) (subject : V) :
    takeTurns subject (rule.nodes + 1) [rule] = some <$> rule.matchSubject subject := by
  refine takeTurns_eq subject ?_
  simp only [pendingNodes]
  omega

end Rule

/-- A pattern in a frame, a constructor that takes any subject whole. -/
def Pattern.framed (p : Pattern σ V) : Pattern σ V :=
  .constructor "" [p] fun subject => return some [subject]

def BaseRule.framed (rule : BaseRule σ V R ε) : BaseRule σ V R ε :=
  { rule with pattern := rule.pattern.framed }

def Rule.framed : Rule σ V R ε → Rule σ V R ε
  | .base rule => .base rule.framed
  | .orElse left right => .orElse left.framed right.framed

/-- The base rule that a call shows to be attempted: the call is that of its frame. -/
def Call.attempted : Call V R ε → Option Nat
  | .extractor rule 0 _ => some rule
  | _ => none

theorem Rule.toList_framed (rule : Rule σ V R ε) :
    rule.framed.toList = rule.toList.map BaseRule.framed := by
  induction rule with
  | base => rfl
  | orElse left right ihLeft ihRight =>
    rw [framed, toList, ihLeft, ihRight, toList, List.map_append]

/-- Blocks of one attempt each attempt base rules in order, each at most once. -/
theorem Blocks.attempted {start count : Nat} {calls : List (Call V R ε)}
    (h : Blocks (fun index block => block.filterMap Call.attempted = [index]) start count calls) :
    calls.filterMap Call.attempted <+: List.range' start count := by
  induction h with
  | nil => exact List.nil_prefix
  | cons hfirst _ ih =>
    rw [List.filterMap_append, hfirst, List.range'_succ, List.singleton_append]
    exact (List.prefix_cons_inj _).mpr ih

variable [BEq V]

/-- A frame leaves no trace of its own. -/
theorem Pattern.matchSubject_framed (p : Pattern σ V) (subject : V) :
    p.framed.matchSubject subject = p.matchSubject subject := by
  apply Attempt.ext
  intro journal
  have hinner : p.framed.matchSubject subject = matchComponents "" .empty [p] [subject] := by
    rw [framed, matchSubject]
    rfl
  rw [hinner, matchComponents, Attempt.runFrom_bind]
  rcases (p.matchSubject subject).runFrom journal with ⟨_ | _ | bindings, left⟩
  · rfl
  · rfl
  · simp only [Bindings.empty_merge, matchComponents, Attempt.runFrom_pure]

variable [OfMatchError ε]

theorem BaseRule.matchSubject_framed (rule : BaseRule σ V R ε) (subject : V) :
    rule.framed.matchSubject subject = rule.matchSubject subject := by
  rw [matchSubject, matchSubject, framed, Pattern.matchSubject_framed]

theorem Rule.matchSubject_framed (rule : Rule σ V R ε) (subject : V) :
    rule.framed.matchSubject subject = rule.matchSubject subject := by
  rw [matchSubject_eq_applyTree, matchSubject_eq_applyTree]
  induction rule with
  | base rule => exact rule.matchSubject_framed subject
  | orElse left right ihLeft ihRight =>
    rw [framed, applyTree_orElse, applyTree_orElse, ihLeft, ihRight]

/-- An attempt at a framed base rule calls the frame once, before all else. -/
theorem BaseRule.framed_watches (rule : BaseRule σ V R ε) (index : Nat) (subject : V) :
    ((rule.framed.watch index).matchSubject subject).Watches (rule.framed.matchSubject subject)
      (fun _ calls => calls.filterMap Call.attempted = [index]) := by
  have hnode : ∀ node values, 0 < node →
      (Call.extractor index node values : Call V R ε).attempted = none := by
    intro node values hpos
    obtain ⟨previous, rfl⟩ := Nat.exists_eq_add_one.mpr hpos
    rfl
  refine rule.framed.matchSubject_watches index subject (fun call => call.attempted = none) ?_
    (fun _ _ => rfl) (fun _ _ => rfl) ?_
  · refine (Pattern.constructor_watches (fun call : Call V R ε => call.attempted = none) ""
      [rule.pattern] _ 0 hnode subject).imp ?_
    intro _ calls hcalls
    obtain ⟨values, inner, rfl, hnone⟩ := hcalls
    rw [List.filterMap_cons, List.filterMap_eq_nil_iff.mpr hnone]
    rfl
  · intro first rest hfirst hrest
    rw [List.filterMap_append, hfirst, List.filterMap_eq_nil_iff.mpr hrest, List.append_nil]

theorem Rule.framed_watches (rule : Rule σ V R ε) (subject : V) :
    ((rule.framed.watch 0).matchSubject subject).Watches (rule.matchSubject subject)
      (fun _ calls => calls.filterMap Call.attempted <+: List.range rule.alternatives) := by
  rw [← rule.matchSubject_framed, matchSubject_eq_applyInOrder, matchSubject_eq_applyInOrder,
    toList_watch]
  have hblock : ∀ framed ∈ rule.framed.toList, ∀ index,
      ((framed.watch index).matchSubject subject).Watches (framed.matchSubject subject)
        (fun _ calls => calls.filterMap Call.attempted = [index]) := by
    intro framed hframed index
    rw [toList_framed] at hframed
    obtain ⟨plain, -, rfl⟩ := List.mem_map.mp hframed
    exact plain.framed_watches index subject
  refine (BaseRule.applyInOrder_watches subject hblock 0).imp ?_
  intro _ calls hcalls
  have hprefix := hcalls.attempted
  rwa [toList_framed, List.length_map, ← alternatives_eq_length, ← List.range_eq_range']
    at hprefix

/-- Applying a rule with a work list refines the meaning of the rule along its tree: the same
outcome, state and events, the same calls when they are watched, in a bounded number of turns
and with attempts at base rules in their order, none of them twice. -/
theorem Rule.matchSubject_refines (rule : Rule σ V R ε) (subject : V) (journal : Journal σ) :
    (∀ outcome left, (rule.matchSubject subject).runFrom journal = (outcome, left) ↔
      Yields subject rule journal outcome left) ∧
    (∃ calls,
      ((rule.watch 0).matchSubject subject).runFrom (journal.watched []) =
        (((rule.matchSubject subject).runFrom journal).1,
          ((rule.matchSubject subject).runFrom journal).2.watched calls) ∧
      Yields subject (rule.watch 0) (journal.watched [])
        ((rule.matchSubject subject).runFrom journal).1
        (((rule.matchSubject subject).runFrom journal).2.watched calls)) ∧
    (takeTurns subject (rule.nodes + 1) [rule] = some <$> rule.matchSubject subject) ∧
    ∃ calls,
      ((rule.framed.watch 0).matchSubject subject).runFrom (journal.watched []) =
        (((rule.matchSubject subject).runFrom journal).1,
          ((rule.matchSubject subject).runFrom journal).2.watched calls) ∧
      calls.filterMap Call.attempted <+: List.range rule.alternatives := by
  refine ⟨?_, ?_, rule.takeTurns_nodes subject, ?_⟩
  · intro outcome left
    rw [matchSubject_eq_applyTree]
    exact run_applyTree_iff
  · obtain ⟨calls, -, hrun⟩ := rule.matchSubject_watches 0 subject journal []
    refine ⟨calls, hrun, ?_⟩
    rw [← run_applyTree_iff, ← matchSubject_eq_applyTree]
    exact hrun
  · obtain ⟨calls, hattempts, hrun⟩ := rule.framed_watches subject journal []
    exact ⟨calls, hrun, hattempts⟩

end GuardedRules
