import GuardedRules.Proofs.Environments
import GuardedRules.Proofs.WatchedRules

/-!
# What guards and actions can look up

A base rule hands one match to all of its guards and actions, the one that its pattern came to.
The calls are listed here with what they are handed, because a guard or an action may do with it
whatever it likes. Every look-up of a name goes through the same environment, whose names are the
variables of the pattern; so the look-ups agree with each other and with the pattern, and one
that fails tells these variables in their order.
-/

namespace GuardedRules

variable {σ V R ε : Type}

/-- The look-ups of a name in a match, where these are the names that may be taken for granted. -/
structure MatchResult.AnswersFor (result : MatchResult V) (names : List String)
    (name : String) : Prop where
  get_iff : name ∈ names ↔ ∃ value, result.get name = .ok value
  get?_iff : name ∈ names ↔ (result.get? name).isSome = true
  contains_iff : name ∈ names ↔ result.bindings.contains name = true
  demand_iff : name ∈ names ↔ ∃ value, result.demand name = .ok value
  /-- All look-ups find the same value. -/
  same_value : name ∈ names →
    ∃ value, result.get name = .ok value ∧ result.get? name = some value ∧
      result.demand name = .ok value
  /-- The error names the variable that is missing and lists those that there are. -/
  undefined : name ∉ names →
    result.get name = .error (.undefinedVariable name ⟨", ".intercalate names⟩) ∧
      (MatchError.undefinedVariable name names).help =
        some ("The pattern this guard or action is attached to binds: [" ++
          ", ".intercalate names ++ "]")
  unbound : name ∉ names → result.demand name = .error ⟨name⟩

/-- A match answers for the names that it binds. -/
theorem MatchResult.answersFor_names (result : MatchResult V) (name : String) :
    result.AnswersFor result.names name := by
  have habsent : result.get? name = none ↔ name ∉ result.names := Bindings.get?_eq_none_iff
  have hbound : name ∈ result.names ↔ (result.get? name).isSome = true := by
    rw [Option.isSome_iff_ne_none, ne_eq, habsent, Decidable.not_not]
  have hvalue : name ∈ result.names ↔ ∃ value, result.get? name = some value :=
    hbound.trans Option.isSome_iff_exists
  exact {
    get_iff := by simpa only [get_eq_ok_iff] using hvalue
    get?_iff := hbound
    contains_iff := hbound
    demand_iff := by simpa only [demand_eq_ok_iff] using hvalue
    same_value := by
      intro hmem
      obtain ⟨value, hfound⟩ := hvalue.mp hmem
      exact ⟨value, get_eq_ok_iff.mpr hfound, hfound, demand_eq_ok_iff.mpr hfound⟩
    undefined := fun hmissing => ⟨get_of_none (habsent.mpr hmissing), rfl⟩
    unbound := fun hmissing => demand_of_none (habsent.mpr hmissing) }

/-- A call of code within a base rule, with the match that the code is handed, if any. -/
inductive Handing (V : Type) where
  | extractor (node : Nat)
  | guard (arm : Nat) (result : MatchResult V)
  | action (arm : Nat) (result : MatchResult V)

def Handing.result? : Handing V → Option (MatchResult V)
  | .extractor _ => none
  | .guard _ result => some result
  | .action _ result => some result

def Arm.watchHanded (index : Nat) (arm : Arm σ V R ε) : Arm (Watched σ (Handing V)) V R ε where
  guard result := Attempt.watch (fun _ => .guard index result) (arm.guard result)
  action result := Attempt.watch (fun _ => .action index result) (arm.action result)

/-- The base rule whose calls are listed with what they are handed. -/
def BaseRule.watchHanded (rule : BaseRule σ V R ε) : BaseRule (Watched σ (Handing V)) V R ε where
  pattern := rule.pattern.watch (fun node _ => .extractor node) 0
  arms := rule.arms.mapIdx fun index arm => arm.watchHanded index

theorem Arm.evaluate_watchHanded (arm : Arm σ V R ε) (index : Nat) (result : MatchResult V) :
    ((arm.watchHanded index).evaluate result).Watches (arm.evaluate result)
      (eachCall fun call => call.result? = some result) := by
  apply evaluate_watches_of
  · show (Attempt.watch (fun _ => Handing.guard index result) (arm.guard result)).Watches _ _
    exact .watch _ _ fun _ => List.forall_mem_singleton.mpr rfl
  · show (Attempt.watch (fun _ => Handing.action index result) (arm.action result)).Watches _ _
    exact .watch _ _ fun _ => List.forall_mem_singleton.mpr rfl

/-- Arms are handed the match that they are tried with. -/
theorem Arm.tryInOrder_watchHanded (result : MatchResult V) (arms : List (Arm σ V R ε)) :
    (tryInOrder result 0 (arms.mapIdx fun index arm => arm.watchHanded index)).Watches
      (tryInOrder result 0 arms) (eachCall fun call => call.result? = some result) := by
  have hwatched := tryInOrder_watches_of watchHanded
    (fun arm (_ : arm ∈ arms) position => arm.evaluate_watchHanded position result) 0
  simpa only [Nat.zero_add] using hwatched

variable [BEq V] [OfMatchError ε]

/-- A base rule whose pattern matches calls extractors first, and hands the match to whatever it
calls after them. -/
theorem BaseRule.handed_of_match (rule : BaseRule σ V R ε) (subject : V) (journal : Journal σ)
    {b : Bindings V} (h : ((rule.pattern.matchSubject subject).runFrom journal).1 = .ok (some b)) :
    ∃ handings : List (Handing V),
      (rule.watchHanded.matchSubject subject).runFrom (journal.watched []) =
        (((rule.matchSubject subject).runFrom journal).1,
          ((rule.matchSubject subject).runFrom journal).2.watched handings) ∧
      ∀ handing ∈ handings, ∀ m, handing.result? = some m → m = ⟨b⟩ := by
  obtain ⟨extractions, hextractions, hpattern⟩ :=
    rule.pattern.callsOnly (fun node _ => Handing.extractor node)
      (fun call : Handing V => call.result? = none) 0 (fun _ _ _ => rfl) subject journal []
  obtain ⟨handings, hhandings, harms⟩ := Arm.tryInOrder_watchHanded ⟨b⟩ rule.arms
    ((rule.pattern.matchSubject subject).runFrom journal).2 ([] ++ extractions)
  refine ⟨[] ++ extractions ++ handings, ?_, ?_⟩
  · rw [matchSubject, matchSubject, Attempt.runFrom_bind, Attempt.runFrom_bind,
      Attempt.runFrom_adapt, Attempt.runFrom_adapt, watchHanded, hpattern, h]
    exact harms
  · intro handing hmem m hm
    rw [List.nil_append, List.mem_append] at hmem
    rcases hmem with hextraction | hhanding
    · rw [hextractions handing hextraction] at hm
      cases hm
    · rw [hhandings handing hhanding] at hm
      exact (Option.some.inj hm).symm

/-- Where the pattern of a base rule matches, its guards and actions are handed what the match has
bound and nothing else, and whatever name they look up in it, all look-ups agree on whether it is a
variable of the pattern and on its value. -/
theorem MatchResult.lookups_agree_with_variables (rule : BaseRule σ V R ε) (subject : V)
    (journal : Journal σ) (b : Bindings V)
    (h : ((rule.pattern.matchSubject subject).runFrom journal).1 = .ok (some b)) :
    (∀ name, (⟨b⟩ : MatchResult V).AnswersFor rule.pattern.variableNames name) ∧
    ∃ handings : List (Handing V),
      (rule.watchHanded.matchSubject subject).runFrom (journal.watched []) =
        (((rule.matchSubject subject).runFrom journal).1,
          ((rule.matchSubject subject).runFrom journal).2.watched handings) ∧
      ∀ handing ∈ handings, ∀ m, handing.result? = some m → m = ⟨b⟩ := by
  refine ⟨?_, rule.handed_of_match subject journal h⟩
  have hnames : b.names = rule.pattern.variableNames :=
    (Pattern.names_of_match rule.pattern subject journal b h).trans
      (Pattern.collectVariables_eq_foldl rule.pattern []).symm
  intro name
  rw [← hnames]
  exact answersFor_names ⟨b⟩ name

/-- The guard that declines, the one that holds and its action are handed one match. It tells a
variable bound in two places, and one that the pattern does not bind. -/
theorem MatchResult.lookups_agree_with_variables_pair :
    let pattern : Pattern Unit Nat :=
      .constructor "pair" [.var "x", .aliased "y" (.var "x")] fun n => return some [n, n]
    let rule : BaseRule Unit Nat Nat MatchError := ⟨pattern, [
      ⟨fun m => return m.bindings.contains "z", fun _ => return 0⟩,
      ⟨otherwise, fun m => return (m.get? "x").getD 0⟩]⟩
    let b : Bindings Nat := ⟨[("x", 7), ("y", 7)], by decide⟩
    ((rule.pattern.matchSubject 7).runFrom ⟨(), #[]⟩).1 = .ok (some b) ∧
    ((rule.watchHanded.matchSubject 7).runFrom ⟨⟨(), []⟩, #[]⟩).2.state.calls =
      [.extractor 0, .guard 0 ⟨b⟩, .guard 1 ⟨b⟩, .action 1 ⟨b⟩] ∧
    (∃ value, (⟨b⟩ : MatchResult Nat).get "y" = .ok value) ∧
    (⟨b⟩ : MatchResult Nat).demand "z" = .error ⟨"z"⟩ := by
  intro pattern rule b
  have hmatch : ((rule.pattern.matchSubject 7).runFrom ⟨(), #[]⟩).1 = .ok (some b) := rfl
  obtain ⟨hanswers, -⟩ := lookups_agree_with_variables rule 7 ⟨(), #[]⟩ b hmatch
  refine ⟨hmatch, rfl, ?_, ?_⟩
  · exact (hanswers "y").get_iff.mp (by decide)
  · exact (hanswers "z").unbound (by decide)

end GuardedRules
