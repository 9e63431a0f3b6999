import GuardedRules.Proofs.Extractions
import GuardedRules.Proofs.RuleSemantics

/-!
# The calls of a watched rule

An evaluation goes through base rules from left to right. Its calls are therefore a row
of blocks, one for each base rule that was attempted, and what is known about the calls
of one base rule holds of its block.
-/

namespace GuardedRules

variable {σ V R ε : Type}

/-- The arms watched as those of the base rule at `index`, counted from `start`. -/
def Arm.watchIn (index start : Nat) (arms : List (Arm σ V R ε)) :
    List (Arm (Watched σ (Call V R ε)) V R ε) :=
  arms.mapIdx fun i arm => arm.watch index (start + i)

theorem Arm.watchIn_cons (index start : Nat) (arm : Arm σ V R ε) (arms : List (Arm σ V R ε)) :
    watchIn index start (arm :: arms) =
      arm.watch index start :: watchIn index (start + 1) arms := by
  rw [watchIn, List.mapIdx_cons, watchIn]
  simp only [Nat.add_zero, ← Nat.add_assoc, Nat.add_right_comm]

/-- The base rules watched one by one, counted from `start`. -/
def BaseRule.watchIn (start : Nat) (rules : List (BaseRule σ V R ε)) :
    List (BaseRule (Watched σ (Call V R ε)) V R ε) :=
  rules.mapIdx fun i rule => rule.watch (start + i)

theorem BaseRule.watchIn_cons (start : Nat) (rule : BaseRule σ V R ε)
    (rules : List (BaseRule σ V R ε)) :
    watchIn start (rule :: rules) = rule.watch start :: watchIn (start + 1) rules := by
  rw [watchIn, List.mapIdx_cons, watchIn]
  simp only [Nat.add_zero, ← Nat.add_assoc, Nat.add_right_comm]

theorem BaseRule.watchIn_append (start : Nat) (first second : List (BaseRule σ V R ε)) :
    watchIn start (first ++ second) =
      watchIn start first ++ watchIn (start + first.length) second := by
  rw [watchIn, List.mapIdx_append, watchIn, watchIn]
  simp only [← Nat.add_assoc, Nat.add_right_comm]

/-- Watching a rule is watching its base rules. -/
theorem Rule.toList_watch (rule : Rule σ V R ε) (start : Nat) :
    (rule.watch start).toList = BaseRule.watchIn start rule.toList := by
  induction rule generalizing start with
  | base => rfl
  | orElse first second ihFirst ihSecond =>
    rw [watch, toList, toList, ihFirst, ihSecond, BaseRule.watchIn_append]

theorem Rule.toList_watch_of_append {rule : Rule σ V R ε} {before after : List (BaseRule σ V R ε)}
    {base : BaseRule σ V R ε} (h : rule.toList = before ++ base :: after) :
    (rule.watch 0).toList = BaseRule.watchIn 0 before ++
      base.watch before.length :: BaseRule.watchIn (before.length + 1) after := by
  rw [toList_watch, h, BaseRule.watchIn_append, BaseRule.watchIn_cons, Nat.zero_add]

section Arms

variable {C : Type} {good : C → Prop} {result : MatchResult V}

/-- An arm whose guard and action are watched is watched as a whole. -/
theorem Arm.evaluate_watches_of {watching : Arm (Watched σ C) V R ε} {plain : Arm σ V R ε}
    (hguard : (watching.guard result).Watches (plain.guard result) (eachCall good))
    (haction : (watching.action result).Watches (plain.action result) (eachCall good)) :
    (watching.evaluate result).Watches (plain.evaluate result) (eachCall good) := by
  rw [evaluate, evaluate]
  refine hguard.bindEach ?_
  intro answer
  cases answer with
  | false => exact .silent fun _ _ => rfl
  | true => exact haction.bindEach fun _ => .silent fun _ _ => rfl

/-- Arms that are watched one by one, whatever their positions, are watched in a row. -/
theorem Arm.tryInOrder_watches_of (watch : Nat → Arm σ V R ε → Arm (Watched σ C) V R ε)
    {arms : List (Arm σ V R ε)}
    (harms : ∀ arm ∈ arms, ∀ position,
      ((watch position arm).evaluate result).Watches (arm.evaluate result) (eachCall good))
    (start : Nat) :
    (tryInOrder result start (arms.mapIdx fun i arm => watch (start + i) arm)).Watches
      (tryInOrder result start arms) (eachCall good) := by
  induction arms generalizing start with
  | nil => exact .silent fun _ _ => rfl
  | cons arm arms ih =>
    have hrest := ih fun other hother => harms other (List.mem_cons_of_mem arm hother)
    rw [List.mapIdx_cons, tryInOrder, tryInOrder]
    refine (harms arm List.mem_cons_self start).bindEach ?_
    intro outcome
    cases outcome with
    | some value => exact .silent fun _ _ => rfl
    | none =>
      have hrecord : Attempt.Watches (record (.guardDeclined start))
          (record (.guardDeclined start) : Attempt ε σ Unit) (eachCall good) :=
        .silent fun _ _ => rfl
      refine hrecord.bindEach ?_
      intro _
      simp only [← Nat.add_assoc, Nat.add_right_comm start _ 1]
      exact hrest (start + 1)

end Arms

section Calls

variable {good : Call V R ε → Prop} {index : Nat}

theorem Arm.evaluate_watches (arm : Arm σ V R ε) (position : Nat) (result : MatchResult V)
    (hguard : ∀ answer, good (.guard index position answer))
    (haction : ∀ outcome, good (.action index position outcome)) :
    ((arm.watch index position).evaluate result).Watches (arm.evaluate result)
      (eachCall good) :=
  evaluate_watches_of
    (.watch _ _ fun answer => List.forall_mem_singleton.mpr (hguard answer))
    (.watch _ _ fun outcome => List.forall_mem_singleton.mpr (haction outcome))

/-- Trying arms calls their guards and actions, and nothing else. -/
theorem Arm.tryInOrder_watches (result : MatchResult V)
    (hguard : ∀ position answer, good (.guard index position answer))
    (haction : ∀ position outcome, good (.action index position outcome))
    (start : Nat) (arms : List (Arm σ V R ε)) :
    (tryInOrder result start (watchIn index start arms)).Watches (tryInOrder result start arms)
      (eachCall good) :=
  tryInOrder_watches_of (fun position arm => arm.watch index position)
    (fun arm _ position => arm.evaluate_watches position result (hguard position)
      (haction position)) start

end Calls

def Call.base : Call V R ε → Nat
  | .extractor rule _ _ => rule
  | .guard rule _ _ => rule
  | .action rule _ _ => rule

/-- Calls in a row of blocks, at most one for each of the `count` positions from `start` on
and none left out before the last. -/
inductive Blocks {C : Type} (block : Nat → List C → Prop) : Nat → Nat → List C → Prop
  | nil (start count : Nat) : Blocks block start count []
  | cons {start count : Nat} {first rest : List C} :
      block start first → Blocks block (start + 1) count rest →
      Blocks block start (count + 1) (first ++ rest)

variable [BEq V] [OfMatchError ε]

/-- What the pattern and the arms of a base rule keep, the base rule keeps. -/
theorem BaseRule.matchSubject_watches (rule : BaseRule σ V R ε) (index : Nat) (subject : V)
    (good : Call V R ε → Prop) {kept : List (Call V R ε) → Prop}
    (hpattern : ((rule.watch index).pattern.matchSubject subject).Watches
      (rule.pattern.matchSubject subject) (fun _ => kept))
    (hguard : ∀ position answer, good (.guard index position answer))
    (haction : ∀ position outcome, good (.action index position outcome))
    (hkept : ∀ first rest, kept first → (∀ call ∈ rest, good call) → kept (first ++ rest)) :
    ((rule.watch index).matchSubject subject).Watches (rule.matchSubject subject)
      (fun _ => kept) := by
  have hadapted : Attempt.Watches
      (((rule.watch index).pattern.matchSubject subject).adapt (ofMatchError : _ → ε))
      ((rule.pattern.matchSubject subject).adapt ofMatchError) (fun _ => kept) :=
    hpattern.adapt fun _ _ hcalls => hcalls
  rw [matchSubject, matchSubject]
  refine hadapted.bind (eachCall good) ?_ (fun _ _ hcalls => hcalls) ?_
  · intro matched
    cases matched with
    | none => exact .silent fun _ _ => rfl
    | some bindings =>
      have harms : (rule.watch index).arms = Arm.watchIn index 0 rule.arms := by
        simp [watch, Arm.watchIn]
      rw [harms]
      exact Arm.tryInOrder_watches ⟨bindings⟩ hguard haction 0 rule.arms
  · intro _ first _ rest hfirst hrest
    exact hkept first rest hfirst hrest

/-- The calls of base rules in a row are blocks of calls of single ones. -/
theorem BaseRule.applyInOrder_watches {block : Nat → List (Call V R ε) → Prop} (subject : V)
    {rules : List (BaseRule σ V R ε)}
    (hblock : ∀ rule ∈ rules, ∀ index,
      ((rule.watch index).matchSubject subject).Watches (rule.matchSubject subject)
        (fun _ => block index))
    (start : Nat) :
    (applyInOrder subject (watchIn start rules)).Watches (applyInOrder subject rules)
      (fun _ => Blocks block start rules.length) := by
  induction rules generalizing start with
  | nil => exact .of_silent (fun _ => .nil start 0) fun _ _ => rfl
  | cons rule rest ih =>
    have hfirst := hblock rule List.mem_cons_self start
    have hrest := ih (fun other hother => hblock other (List.mem_cons_of_mem rule hother))
    rw [watchIn_cons, applyInOrder, applyInOrder]
    refine hfirst.bind (fun _ => Blocks block (start + 1) rest.length) ?_ ?_ ?_
    · intro outcome
      cases outcome with
      | some value => exact .of_silent (fun _ => .nil _ _) fun _ _ => rfl
      | none => exact hrest (start + 1)
    · intro _ calls hcalls
      rw [← List.append_nil calls]
      exact .cons hcalls (.nil _ _)
    · intro _ first _ second hcalls hlater
      exact .cons hcalls hlater

/-- The calls of a watched base rule are its own. -/
theorem BaseRule.matchSubject_watches_own (rule : BaseRule σ V R ε) (index : Nat) (subject : V) :
    ((rule.watch index).matchSubject subject).Watches (rule.matchSubject subject)
      (fun _ calls => ∀ call ∈ calls, call.base = index) := by
  refine rule.matchSubject_watches index subject (fun call => call.base = index) ?_
    (fun _ _ => rfl) (fun _ _ => rfl) ?_
  · exact rule.pattern.callsOnly _ (Call.base · = index) 0 (fun _ _ _ => rfl) subject
  · intro first rest hfirst hrest
    exact List.forall_mem_append.mpr ⟨hfirst, hrest⟩

theorem BaseRule.applyInOrder_watches_own (subject : V) (start : Nat)
    (rules : List (BaseRule σ V R ε)) :
    (applyInOrder subject (watchIn start rules)).Watches (applyInOrder subject rules)
      (fun _ => Blocks (fun index calls => ∀ call ∈ calls, call.base = index) start
        rules.length) :=
  applyInOrder_watches subject (fun rule _ index => rule.matchSubject_watches_own index subject)
    start

/-- A watched rule does what the plain one does, and its calls are grouped by base rules. -/
theorem Rule.matchSubject_watches (rule : Rule σ V R ε) (start : Nat) (subject : V) :
    ((rule.watch start).matchSubject subject).Watches (rule.matchSubject subject)
      (fun _ => Blocks (fun index calls => ∀ call ∈ calls, call.base = index) start
        rule.alternatives) := by
  rw [matchSubject_eq_applyInOrder, matchSubject_eq_applyInOrder, toList_watch,
    alternatives_eq_length]
  exact BaseRule.applyInOrder_watches_own subject start rule.toList

end GuardedRules
