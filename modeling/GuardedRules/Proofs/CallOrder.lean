import GuardedRules.Proofs.WatchedRules

/-!
# The order of calls

Which calls can follow one another while a rule is applied is a small grammar. A call
either leaves the evaluation going or decides its outcome, and nothing stands after a
call of the second kind; an action stands nowhere but behind its own guard. The calls of
patterns, arms and base rules are parts of such a sequence and can be put together.
-/

namespace GuardedRules

variable {σ V R ε ε' α β : Type}

namespace Call

/-- The mismatch that a call of an extractor comes to: the extractor gave another number of
values than its constructor, counted within the pattern of its base rule, has sub-patterns. -/
def misfit? (rules : List (BaseRule σ V R ε)) : Call V R ε → Option MatchError
  | .extractor rule node values => do
    let base ← rules[rule]?
    let (name, expected) ← base.pattern.constructors[node]?
    let found ← values
    if found.length = expected then none
    else some (.arityMismatch name expected found.length)
  | .guard _ _ _ => none
  | .action _ _ _ => none

variable [OfMatchError ε]

/-- Calls in an order in which an evaluation may make them, with the outcome that the last
one decides. There is none if the evaluation can go on after all of them. -/
inductive Orderly (rules : List (BaseRule σ V R ε)) :
    Option (Except ε R) → List (Call V R ε) → Prop
  | nil : Orderly rules none []
  | extracts {rule node : Nat} {values : Option (List V)} {outcome : Option (Except ε R)}
      {calls : List (Call V R ε)} :
      misfit? rules (.extractor rule node values) = none → Orderly rules outcome calls →
      Orderly rules outcome (.extractor rule node values :: calls)
  | misfits {rule node : Nat} {values : Option (List V)} {mismatch : MatchError} :
      misfit? rules (.extractor rule node values) = some mismatch →
      Orderly rules (some (.error (ofMatchError mismatch))) [.extractor rule node values]
  | guardFails (rule arm : Nat) (error : ε) :
      Orderly rules (some (.error error)) [.guard rule arm (.error error)]
  | guardDeclines {rule arm : Nat} {outcome : Option (Except ε R)} {calls : List (Call V R ε)} :
      Orderly rules outcome calls →
      Orderly rules outcome (.guard rule arm (.ok false) :: calls)
  | acts (rule arm : Nat) (outcome : Except ε R) :
      Orderly rules (some outcome) [.guard rule arm (.ok true), .action rule arm outcome]

theorem Orderly.append {rules : List (BaseRule σ V R ε)} {first second : List (Call V R ε)}
    {undecided outcome : Option (Except ε R)} (h : Orderly rules undecided first)
    (hundecided : undecided = none) (hsecond : Orderly rules outcome second) :
    Orderly rules outcome (first ++ second) := by
  induction h with
  | nil => exact hsecond
  | extracts hfit _ ih => exact .extracts hfit (ih hundecided)
  | misfits => cases hundecided
  | guardFails => cases hundecided
  | guardDeclines _ ih => exact .guardDeclines (ih hundecided)
  | acts => cases hundecided

end Call

/-- What a rule has decided, if anything. -/
def decision? : Except ε (Option R) → Option (Except ε R)
  | .ok none => none
  | .ok (some value) => some (.ok value)
  | .error error => some (.error error)

theorem decision?_eq_none_iff {outcome : Except ε (Option R)} :
    decision? outcome = none ↔ outcome = .ok none := by
  rcases outcome with _ | _ | _ <;> simp [decision?]

theorem decision?_eq_ok_iff {outcome : Except ε (Option R)} {value : R} :
    decision? outcome = some (.ok value) ↔ outcome = .ok (some value) := by
  rcases outcome with _ | _ | _ <;> simp [decision?]

theorem decision?_eq_error_iff {outcome : Except ε (Option R)} {error : ε} :
    decision? outcome = some (.error error) ↔ outcome = .error error := by
  rcases outcome with _ | _ | _ <;> simp [decision?]

/-- What a part of a rule has decided: it can only fail. -/
def failure? (wrap : ε' → ε) : Except ε' α → Option (Except ε R)
  | .ok _ => none
  | .error error => some (.error (wrap error))

namespace Attempt.Watches

variable [OfMatchError ε] {rules : List (BaseRule σ V R ε)}

/-- A sequence of two parts each of which makes its calls in order. -/
theorem bindOrderly {watching : Attempt ε' (Watched σ (Call V R ε)) α} {plain : Attempt ε' σ α}
    {next : α → Attempt ε' (Watched σ (Call V R ε)) β} {plainNext : α → Attempt ε' σ β}
    {wrap : ε' → ε} {whole : Except ε' β → Option (Except ε R)}
    (h : watching.Watches plain fun outcome => Call.Orderly rules (failure? wrap outcome))
    (hnext : ∀ a, (next a).Watches (plainNext a) fun outcome => Call.Orderly rules (whole outcome))
    (hfail : ∀ error, whole (.error error) = some (.error (wrap error))) :
    (watching >>= next).Watches (plain >>= plainNext)
      fun outcome => Call.Orderly rules (whole outcome) := by
  refine h.bind _ hnext ?_ ?_
  · intro error calls hcalls
    rw [hfail]
    exact hcalls
  · intro _ first _ second hfirst hsecond
    exact hfirst.append rfl hsecond

/-- A decision stands; only without one the second part makes calls. -/
theorem bindDecision {watching : Attempt ε (Watched σ (Call V R ε)) (Option R)}
    {plain : Attempt ε σ (Option R)}
    {next : Option R → Attempt ε (Watched σ (Call V R ε)) (Option R)}
    {plainNext : Option R → Attempt ε σ (Option R)}
    (h : watching.Watches plain fun outcome => Call.Orderly rules (decision? outcome))
    (hsome : ∀ value, (next (some value)).Watches (plainNext (some value))
      fun outcome calls => outcome = .ok (some value) ∧ calls = [])
    (hnone : (next none).Watches (plainNext none)
      fun outcome => Call.Orderly rules (decision? outcome)) :
    (watching >>= next).Watches (plain >>= plainNext)
      fun outcome => Call.Orderly rules (decision? outcome) := by
  refine h.bindValue
    (fun decided outcome calls => decided.elim (Call.Orderly rules (decision? outcome) calls)
      fun value => outcome = .ok (some value) ∧ calls = []) ?_ (fun _ _ hcalls => hcalls) ?_
  · intro decided
    cases decided with
    | some value => exact hsome value
    | none => exact hnone
  · intro decided first outcome second hfirst hsecond
    cases decided with
    | some value =>
      obtain ⟨rfl, rfl⟩ := hsecond
      rw [List.append_nil]
      exact hfirst
    | none => exact hfirst.append rfl hsecond

end Attempt.Watches

/-- Calls of the extractors of a base rule in turn are in order, and only a misfit decides. -/
theorem CallsInTurn.orderly [OfMatchError ε] {rules : List (BaseRule σ V R ε)}
    {base : BaseRule σ V R ε} {index number stop : Nat} {outcome : Except MatchError (Option α)}
    {calls : List (Call V R ε)} (hbase : rules[index]? = some base)
    (h : CallsInTurn (Call.extractor index) base.pattern.constructors number stop outcome calls) :
    Call.Orderly rules (failure? ofMatchError outcome) calls := by
  induction h with
  | done => exact .nil
  | leaves => exact .nil
  | fits hnode _ ih =>
    refine .extracts ?_ ih
    simp [Call.misfit?, hbase, hnode]
  | @declines number =>
    refine .extracts ?_ .nil
    rw [Call.misfit?, hbase]
    cases base.pattern.constructors[number]? <;> simp
  | misfits _ hnode hlength =>
    refine .misfits ?_
    simp [Call.misfit?, hbase, hnode, hlength]

namespace Pattern

variable [BEq V] [OfMatchError ε]

/-- Wherever a pattern stands within the one of a base rule, its calls come in order. -/
def CallsInOrder (rules : List (BaseRule σ V R ε)) (base : BaseRule σ V R ε) (index : Nat)
    (p : Pattern σ V) : Prop :=
  ∀ number, p.constructors <+: base.pattern.constructors.drop number → ∀ subject,
    ((p.watch (Call.extractor (R := R) (ε := ε) index) number).matchSubject subject).Watches
      (p.matchSubject subject)
      fun outcome => Call.Orderly rules (failure? ofMatchError outcome)

variable {rules : List (BaseRule σ V R ε)} {base : BaseRule σ V R ε} {index : Nat}

theorem callsInOrder (hbase : rules[index]? = some base) (p : Pattern σ V) :
    p.CallsInOrder rules base index :=
  fun number hnumber subject =>
    (p.extractsInTurn number hnumber subject).imp fun _ _ h => h.orderly hbase

end Pattern

section Arms

variable [OfMatchError ε] {rules : List (BaseRule σ V R ε)}

theorem Arm.evaluate_in_order (arm : Arm σ V R ε) (index position : Nat) (result : MatchResult V) :
    ((arm.watch index position).evaluate result).Watches (arm.evaluate result)
      fun outcome => Call.Orderly rules (decision? outcome) := by
  have hanswer : Attempt.Watches ((arm.watch index position).guard result) (arm.guard result)
      fun answer calls => calls = [Call.guard index position answer] :=
    .watch _ _ fun _ => rfl
  have hvalue : Attempt.Watches ((arm.watch index position).action result) (arm.action result)
      fun outcome calls => calls = [Call.action index position outcome] :=
    .watch _ _ fun _ => rfl
  rw [evaluate, evaluate]
  refine hanswer.bindValue
    (fun answer outcome calls => Call.Orderly rules (decision? outcome)
      (.guard index position (.ok answer) :: calls)) ?_ ?_ ?_
  · intro answer
    cases answer with
    | false => exact .of_silent (fun _ => .guardDeclines .nil) fun _ _ => rfl
    | true =>
      refine hvalue.bindValue (fun value outcome calls => outcome = .ok (some value) ∧ calls = [])
        ?_ ?_ ?_
      · exact fun value => .of_silent (fun _ => ⟨rfl, rfl⟩) fun _ _ => rfl
      · intro error calls hcalls
        rw [hcalls]
        exact .acts index position (.error error)
      · intro value first outcome later hfirst hlater
        obtain ⟨rfl, rfl⟩ := hlater
        rw [hfirst]
        exact .acts index position (.ok value)
  · intro error calls hcalls
    rw [hcalls]
    exact .guardFails index position error
  · intro answer first outcome later hfirst hlater
    rw [hfirst]
    exact hlater

theorem Arm.tryInOrder_in_order (result : MatchResult V) (index start : Nat)
    (arms : List (Arm σ V R ε)) :
    (tryInOrder result start (watchIn index start arms)).Watches (tryInOrder result start arms)
      fun outcome => Call.Orderly rules (decision? outcome) := by
  induction arms generalizing start with
  | nil => exact .of_silent (fun _ => .nil) fun _ _ => rfl
  | cons arm arms ih =>
    rw [watchIn_cons, tryInOrder, tryInOrder]
    refine (arm.evaluate_in_order index start result).bindDecision ?_ ?_
    · exact fun value => .of_silent (fun _ => ⟨rfl, rfl⟩) fun _ _ => rfl
    · have hrecord : Attempt.Watches (record (.guardDeclined start))
          (record (.guardDeclined start) : Attempt ε σ Unit)
          fun outcome => Call.Orderly rules (failure? id outcome) :=
        .of_silent (fun _ => .nil) fun _ _ => rfl
      exact hrecord.bindOrderly (fun _ => ih (start + 1)) fun _ => rfl

end Arms

section Rules

variable [BEq V] [OfMatchError ε] {rules : List (BaseRule σ V R ε)}

theorem BaseRule.matchSubject_in_order {base : BaseRule σ V R ε} {index : Nat}
    (hbase : rules[index]? = some base) (subject : V) :
    ((base.watch index).matchSubject subject).Watches (base.matchSubject subject)
      fun outcome => Call.Orderly rules (decision? outcome) := by
  have hpattern := Pattern.callsInOrder hbase base.pattern 0 (List.prefix_refl _) subject
  have hadapted : Attempt.Watches
      (((base.watch index).pattern.matchSubject subject).adapt (ofMatchError : _ → ε))
      ((base.pattern.matchSubject subject).adapt ofMatchError)
      fun outcome => Call.Orderly rules (failure? id outcome) :=
    hpattern.adapt fun outcome _ hcalls => by cases outcome <;> exact hcalls
  have harms : (base.watch index).arms = Arm.watchIn index 0 base.arms := by
    simp [watch, Arm.watchIn]
  rw [matchSubject, matchSubject]
  refine hadapted.bindOrderly ?_ fun _ => rfl
  intro matched
  cases matched with
  | none => exact .of_silent (fun _ => .nil) fun _ _ => rfl
  | some bindings =>
    rw [harms]
    exact Arm.tryInOrder_in_order ⟨bindings⟩ index 0 base.arms

theorem BaseRule.applyInOrder_in_order (subject : V) {part : List (BaseRule σ V R ε)} {start : Nat}
    (hpart : part <+: rules.drop start) :
    (applyInOrder subject (watchIn start part)).Watches (applyInOrder subject part)
      fun outcome => Call.Orderly rules (decision? outcome) := by
  induction part generalizing start with
  | nil => exact .of_silent (fun _ => .nil) fun _ _ => rfl
  | cons base rest ih =>
    obtain ⟨hbase, hrest⟩ := getElem?_of_cons_prefix hpart
    rw [watchIn_cons, applyInOrder, applyInOrder]
    refine (BaseRule.matchSubject_in_order hbase subject).bindDecision ?_ (ih hrest)
    exact fun value => .of_silent (fun _ => ⟨rfl, rfl⟩) fun _ _ => rfl

/-- The calls made while a rule is applied come in order, and the last one decides. -/
theorem Rule.matchSubject_in_order (rule : Rule σ V R ε) (subject : V) :
    ((rule.watch 0).matchSubject subject).Watches (rule.matchSubject subject)
      fun outcome => Call.Orderly rule.toList (decision? outcome) := by
  rw [matchSubject_eq_applyInOrder, matchSubject_eq_applyInOrder, toList_watch]
  exact BaseRule.applyInOrder_in_order subject (List.prefix_refl rule.toList)

end Rules

end GuardedRules
