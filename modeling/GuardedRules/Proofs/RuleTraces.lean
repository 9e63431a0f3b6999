import GuardedRules.Proofs.Confined
import GuardedRules.Proofs.DeclineReasons
import GuardedRules.Proofs.FirstMatch

/-!
# What the record of an evaluation tells

If the code of a caller puts nothing on record, each base rule that is tried leaves the guards
that have declined, in order, and behind them one closing event if it declines itself, the guard
that held if it has an outcome, and nothing if it fails. So the closing events count the base
rules that have declined. From this shape follows that the record tells the outcome of a rule and
the base rule and the arm that have given it.
-/

namespace GuardedRules

variable {ε σ V R α : Type}

namespace Event

/-- Nothing more is tried of a base rule: its pattern has declined, or it has matched and no
guard has held. -/
def isTerminator : Event → Bool
  | noGuardSatisfied _ => true
  | event => event.isDecline

theorem isTerminator_of_isDecline {event : Event} (h : event.isDecline = true) :
    event.isTerminator = true := by
  cases event with
  | noGuardSatisfied => rfl
  | _ => exact h

/-- So many arms have declined one after the other, the first one at this position. -/
def guardsDeclined (index tried : Nat) : List Event := (List.range' index tried).map guardDeclined

theorem guardsDeclined_succ (index tried : Nat) :
    guardsDeclined index (tried + 1) = guardDeclined index :: guardsDeclined (index + 1) tried := by
  rw [guardsDeclined, guardsDeclined, List.range'_succ, List.map_cons]

theorem eq_guardDeclined_of_mem {index tried : Nat} {event : Event}
    (h : event ∈ guardsDeclined index tried) : ∃ arm, event = guardDeclined arm := by
  obtain ⟨arm, -, rfl⟩ := List.mem_map.mp h
  exact ⟨arm, rfl⟩

theorem countP_guardsDeclined (index tried : Nat) :
    (guardsDeclined index tried).countP isTerminator = 0 := by
  rw [List.countP_eq_zero]
  intro event hmem hterminator
  obtain ⟨arm, rfl⟩ := eq_guardDeclined_of_mem hmem
  cases hterminator

theorem guardSatisfied_not_mem (index tried arm : Nat) :
    guardSatisfied arm ∉ guardsDeclined index tried := by
  intro hmem
  obtain ⟨declined, hdeclined⟩ := eq_guardDeclined_of_mem hmem
  cases hdeclined

end Event

open Event (guardsDeclined)

theorem Journal.toList_push (journal : Journal σ) (event : Event) :
    (journal.push event).events.toList = journal.events.toList ++ [event] :=
  Array.toList_push

/-- The attempt adds events that are right for its outcome. -/
def Attempt.Leaves (attempt : Attempt ε σ α) (journal : Journal σ)
    (right : Except ε α → List Event → Prop) : Prop :=
  ∃ events, (attempt.runFrom journal).2.events.toList = journal.events.toList ++ events ∧
    right (attempt.runFrom journal).1 events

/-- What one base rule leaves on record, with arms counted from a position: arms that have
declined and an end that shows the outcome. -/
inductive EndsWith (won : R → Nat → Prop) (index : Nat) :
    Except ε (Option R) → List Event → Prop
  | declines (tried : Nat) {event : Event} :
      event.isTerminator = true →
      EndsWith won index (.ok none) (guardsDeclined index tried ++ [event])
  | answers {value : R} (tried : Nat) :
      won value (index + tried) →
      EndsWith won index (.ok (some value))
        (guardsDeclined index tried ++ [.guardSatisfied (index + tried)])
  | fails (error : ε) (tried : Nat) :
      EndsWith won index (.error error) (guardsDeclined index tried)

namespace EndsWith

variable {won later : R → Nat → Prop} {index : Nat} {outcome : Except ε (Option R)}
  {events : List Event}

theorem imp (h : EndsWith later index outcome events)
    (hwon : ∀ value arm, later value arm → won value arm) : EndsWith won index outcome events := by
  cases h with
  | declines tried hevent => exact .declines tried hevent
  | answers tried hvalue => exact .answers tried (hwon _ _ hvalue)
  | fails error tried => exact .fails error tried

/-- One more arm has declined in front. -/
theorem cons (h : EndsWith later (index + 1) outcome events)
    (hwon : ∀ value arm, later value arm → won value arm) :
    EndsWith won index outcome (.guardDeclined index :: events) := by
  cases h with
  | declines tried hevent =>
    rw [← List.cons_append, ← Event.guardsDeclined_succ]
    exact .declines (tried + 1) hevent
  | @answers value tried hvalue =>
    have hposition : index + 1 + tried = index + (tried + 1) := by omega
    rw [hposition] at hvalue ⊢
    rw [← List.cons_append, ← Event.guardsDeclined_succ]
    exact .answers (tried + 1) (hwon value _ hvalue)
  | fails error tried =>
    rw [← Event.guardsDeclined_succ]
    exact .fails error (tried + 1)

theorem countP_eq_one (h : EndsWith won index (.ok none : Except ε (Option R)) events) :
    events.countP Event.isTerminator = 1 := by
  cases h with
  | declines tried hevent =>
    rw [List.countP_append, Event.countP_guardsDeclined, List.countP_singleton, if_pos hevent]

theorem countP_eq_zero (h : EndsWith won index outcome events) (hdecided : outcome ≠ .ok none) :
    events.countP Event.isTerminator = 0 := by
  cases h with
  | declines => exact absurd rfl hdecided
  | answers tried =>
    rw [List.countP_append, Event.countP_guardsDeclined]
    rfl
  | fails error tried => exact Event.countP_guardsDeclined index tried

theorem last_isTerminator (h : EndsWith won index (.ok none : Except ε (Option R)) events) :
    ∃ event, events.getLast? = some event ∧ event.isTerminator = true := by
  cases h with
  | @declines tried event hevent => exact ⟨event, List.getLast?_concat, hevent⟩

theorem guardSatisfied_not_mem (h : EndsWith won index outcome events)
    (hnone : ∀ value, outcome ≠ .ok (some value)) (arm : Nat) : .guardSatisfied arm ∉ events := by
  cases h with
  | @declines tried event hevent =>
    rw [List.mem_append, List.mem_singleton]
    rintro (hmem | rfl)
    · exact Event.guardSatisfied_not_mem index tried arm hmem
    · cases hevent
  | answers => exact absurd rfl (hnone _)
  | fails error tried => exact Event.guardSatisfied_not_mem index tried arm

end EndsWith

/-- The arms in front decline and the arm at this position gives the value. The first arm stands
at the position `index`. -/
inductive Arm.WonAt (result : MatchResult V) :
    Nat → List (Arm σ V R ε) → Journal σ → R → Nat → Prop
  | here {index : Nat} {arm : Arm σ V R ε} {arms : List (Arm σ V R ε)} {value : R}
      {journal left : Journal σ} :
      (arm.evaluate result).runFrom journal = (.ok (some value), left) →
      WonAt result index (arm :: arms) journal value index
  | later {index position : Nat} {arm : Arm σ V R ε} {arms : List (Arm σ V R ε)} {value : R}
      {journal left : Journal σ} :
      (arm.evaluate result).runFrom journal = (.ok none, left) →
      WonAt result (index + 1) arms (left.push (.guardDeclined index)) value position →
      WonAt result index (arm :: arms) journal value position

namespace Arm

theorem IsQuiet.evaluate {arm : Arm σ V R ε} (h : arm.IsQuiet) (result : MatchResult V) :
    (arm.evaluate result).IsQuiet := by
  intro journal
  have hguard := h.guard result journal
  rw [runFrom_evaluate]
  rcases hheld : (arm.guard result).runFrom journal with ⟨error | _ | _, middle⟩
  · rwa [hheld] at hguard
  · rwa [hheld] at hguard
  · rw [hheld] at hguard
    have haction := (h.action result middle).trans hguard
    rcases hacted : (arm.action result).runFrom middle with ⟨error | value, left⟩
    · simpa only [hacted] using haction
    · simpa only [hacted] using haction

theorem tryInOrder_leaves {arms : List (Arm σ V R ε)} (h : ∀ arm ∈ arms, arm.IsQuiet)
    (result : MatchResult V) (index : Nat) (journal : Journal σ) :
    (tryInOrder result index arms).Leaves journal
      (EndsWith (WonAt result index arms journal) index) := by
  induction arms generalizing index journal with
  | nil => exact ⟨[.noGuardSatisfied index], journal.toList_push _, .declines 0 rfl⟩
  | cons arm arms ih =>
    have hquiet := (h arm List.mem_cons_self).evaluate result journal
    rw [Attempt.Leaves, runFrom_tryInOrder_cons]
    rcases hrun : (arm.evaluate result).runFrom journal with ⟨error | _ | value, left⟩
    · rw [hrun] at hquiet
      refine ⟨[], ?_, .fails error 0⟩
      rw [List.append_nil, hquiet]
    · rw [hrun] at hquiet
      have hrest := fun other hmem => h other (List.mem_cons_of_mem arm hmem)
      obtain ⟨events, hevents, hends⟩ := ih hrest (index + 1) (left.push (.guardDeclined index))
      refine ⟨.guardDeclined index :: events, ?_, hends.cons fun _ _ => .later hrun⟩
      rw [hevents, Journal.toList_push, hquiet, List.append_assoc, List.singleton_append]
    · rw [hrun] at hquiet
      refine ⟨[.guardSatisfied index], ?_, .answers 0 (.here hrun)⟩
      rw [Journal.toList_push, hquiet]

end Arm

section BaseRules

variable [BEq V]

/-- The pattern matches, and the arm at this position gives the value. -/
def BaseRule.WonAt (rule : BaseRule σ V R ε) (subject : V) (journal : Journal σ) (value : R)
    (arm : Nat) : Prop :=
  ∃ bindings middle,
    (rule.pattern.matchSubject subject).runFrom journal = (.ok (some bindings), middle) ∧
      Arm.WonAt ⟨bindings⟩ 0 rule.arms middle value arm

variable [OfMatchError ε]

theorem BaseRule.matchSubject_leaves {rule : BaseRule σ V R ε} (h : rule.IsQuiet) (subject : V)
    (journal : Journal σ) :
    (rule.matchSubject subject).Leaves journal (EndsWith (rule.WonAt subject journal) 0) := by
  obtain ⟨hdeclines, hsilent⟩ := rule.pattern.recordsDecline h.pattern subject journal
  rw [Attempt.Leaves, runFrom_matchSubject]
  rcases hrun : (rule.pattern.matchSubject subject).runFrom journal with
    ⟨error | _ | bindings, left⟩
  · rw [hrun] at hsilent
    refine ⟨[], ?_, .fails _ 0⟩
    rw [List.append_nil, hsilent (by simp)]
  · rw [hrun] at hdeclines
    obtain ⟨event, hevent, hreason⟩ := hdeclines rfl
    refine ⟨[event], ?_, .declines 0 (Event.isTerminator_of_isDecline hreason.isDecline)⟩
    rw [hevent, Array.toList_push]
  · rw [hrun] at hsilent
    obtain ⟨events, hevents, hends⟩ := Arm.tryInOrder_leaves h.arms ⟨bindings⟩ 0 left
    rw [hsilent (by simp)] at hevents
    exact ⟨events, hevents, hends.imp fun _ _ hwon => ⟨bindings, left, hrun, hwon⟩⟩

/-- The base rule at this position gives the value by its arm at that position. The base rules in
front of it decline in turn before. -/
def BaseRule.WonInTurn (subject : V) (rules : List (BaseRule σ V R ε)) (journal : Journal σ)
    (value : R) (position arm : Nat) : Prop :=
  ∃ front base behind middle, rules = front ++ base :: behind ∧ front.length = position ∧
    DeclineInTurn subject front journal middle ∧ base.WonAt subject middle value arm

/-- What base rules leave on record that are tried one after the other: as much as each of them
leaves, up to the first one that does not decline. -/
inductive BaseRule.Trail (subject : V) :
    List (BaseRule σ V R ε) → Journal σ → Except ε (Option R) → List Event → Prop
  | noneLeft (journal : Journal σ) : Trail subject [] journal (.ok none) []
  | declines {rule : BaseRule σ V R ε} {rest : List (BaseRule σ V R ε)}
      {outcome : Except ε (Option R)} {journal middle : Journal σ} {own later : List Event} :
      (rule.matchSubject subject).runFrom journal = (.ok none, middle) →
      EndsWith (rule.WonAt subject journal) 0 (.ok none : Except ε (Option R)) own →
      Trail subject rest middle outcome later →
      Trail subject (rule :: rest) journal outcome (own ++ later)
  | decides {rule : BaseRule σ V R ε} {rest : List (BaseRule σ V R ε)}
      {outcome : Except ε (Option R)} {journal : Journal σ} {own : List Event} :
      outcome ≠ .ok none → EndsWith (rule.WonAt subject journal) 0 outcome own →
      Trail subject (rule :: rest) journal outcome own

namespace BaseRule

theorem applyInOrder_leaves {rules : List (BaseRule σ V R ε)} (h : ∀ rule ∈ rules, rule.IsQuiet)
    (subject : V) (journal : Journal σ) :
    (applyInOrder subject rules).Leaves journal (Trail subject rules journal) := by
  induction rules generalizing journal with
  | nil => exact ⟨[], (List.append_nil _).symm, .noneLeft journal⟩
  | cons rule rest ih =>
    obtain ⟨own, hown, hends⟩ := matchSubject_leaves (h rule List.mem_cons_self) subject journal
    rw [Attempt.Leaves, applyInOrder_cons, Attempt.runFrom_orTry]
    rcases hrun : (rule.matchSubject subject).runFrom journal with ⟨error | _ | value, middle⟩
    · rw [hrun] at hown hends
      refine ⟨own, hown, .decides ?_ hends⟩
      intro hnone
      cases hnone
    · rw [hrun] at hown hends
      obtain ⟨later, hlater, htrail⟩ :=
        ih (fun other hmem => h other (List.mem_cons_of_mem rule hmem)) middle
      refine ⟨own ++ later, ?_, .declines hrun hends htrail⟩
      rw [hlater, hown, List.append_assoc]
    · rw [hrun] at hown hends
      refine ⟨own, hown, .decides ?_ hends⟩
      intro hnone
      cases hnone

namespace Trail

variable {subject : V} {rules : List (BaseRule σ V R ε)} {journal : Journal σ}
  {outcome : Except ε (Option R)} {events : List Event}

/-- Every base rule that declines leaves one terminator, and the one that does not leaves none. -/
theorem countP_cases (h : Trail subject rules journal outcome events) :
    (outcome = .ok none ∧ events.countP Event.isTerminator = rules.length) ∨
      (outcome ≠ .ok none ∧ events.countP Event.isTerminator < rules.length) := by
  induction h with
  | noneLeft => exact .inl ⟨rfl, rfl⟩
  | declines _ hends _ ih =>
    rw [List.countP_append, hends.countP_eq_one, List.length_cons]
    exact ih.imp (fun h => ⟨h.1, by omega⟩) (fun h => ⟨h.1, by omega⟩)
  | decides hdecided hends =>
    refine .inr ⟨hdecided, ?_⟩
    rw [hends.countP_eq_zero hdecided]
    exact Nat.zero_lt_succ _

theorem guardSatisfied_not_mem (h : Trail subject rules journal outcome events)
    (hnone : ∀ value, outcome ≠ .ok (some value)) (arm : Nat) : .guardSatisfied arm ∉ events := by
  induction h with
  | noneLeft => exact List.not_mem_nil
  | declines _ hends _ ih =>
    rw [List.mem_append]
    rintro (hmem | hmem)
    · exact hends.guardSatisfied_not_mem (fun _ h => by cases h) arm hmem
    · exact ih hnone hmem
  | decides _ hends => exact hends.guardSatisfied_not_mem hnone arm

/-- An outcome shows in the last events: the arms of the winning base rule that have declined,
and the one that has won. A terminator stands in front of them if anything does. -/
theorem exists_winner (h : Trail subject rules journal outcome events) {value : R}
    (hvalue : outcome = .ok (some value)) :
    ∃ before arm, events = before ++ (guardsDeclined 0 arm ++ [.guardSatisfied arm]) ∧
      (∀ event, before.getLast? = some event → event.isTerminator = true) ∧
      WonInTurn subject rules journal value (events.countP Event.isTerminator) arm := by
  induction h with
  | noneLeft => cases hvalue
  | @declines rule rest outcome journal middle own later hrun hends _ ih =>
    obtain ⟨before, arm, hevents, hlast, front, base, behind, reached, rfl, hfront, hturn, hwon⟩ :=
      ih hvalue
    refine ⟨own ++ before, arm, ?_, ?_, rule :: front, base, behind, reached, rfl, ?_,
      .cons hrun hturn, hwon⟩
    · rw [hevents, List.append_assoc]
    · intro event hevent
      rw [List.getLast?_append] at hevent
      cases hbefore : before.getLast? with
      | none =>
        obtain ⟨closing, hclosing, hterminator⟩ := hends.last_isTerminator
        rw [hbefore, Option.none_or, hclosing] at hevent
        exact Option.some.inj hevent ▸ hterminator
      | some last =>
        rw [hbefore, Option.some_or] at hevent
        exact hlast event (hbefore.trans hevent)
    · rw [List.countP_append, hends.countP_eq_one, List.length_cons, hfront]
      omega
  | @decides rule rest outcome journal own hdecided hends =>
    subst hvalue
    have hcount := hends.countP_eq_zero hdecided
    cases hends with
    | answers arm hwon =>
      rw [Nat.zero_add] at hwon hcount ⊢
      refine ⟨[], arm, rfl, ?_, [], rule, rest, journal, rfl, hcount.symm, .nil journal, hwon⟩
      intro event hevent
      cases hevent

end Trail

end BaseRule

/-- What the events of one application of a rule tell about it. -/
structure Rule.ToldBy (rule : Rule σ V R ε) (subject : V) (journal : Journal σ)
    (outcome : Except ε (Option R)) (events : List Event) : Prop where
  answers_iff : (∃ value, outcome = .ok (some value)) ↔
    ∃ arm, events.getLast? = some (.guardSatisfied arm)
  /-- The terminators count the base rules in front of the one that has won. Behind the last of
  them stand the arms of that base rule which have declined, and then the one that has won. -/
  winner : ∀ value, outcome = .ok (some value) → ∃ before arm,
    events = before ++ (guardsDeclined 0 arm ++ [.guardSatisfied arm]) ∧
      (∀ event, before.getLast? = some event → event.isTerminator = true) ∧
      BaseRule.WonInTurn subject rule.toList journal value
        (events.countP Event.isTerminator) arm
  declines_iff : outcome = .ok none ↔ events.countP Event.isTerminator = rule.alternatives
  fails : ∀ error, outcome = .error error →
    events.countP Event.isTerminator < rule.alternatives ∧ ∀ arm, .guardSatisfied arm ∉ events

/-- If the code of a caller puts nothing on record, the events that a rule adds tell its outcome,
and with a value the base rule and the arm that have given it. -/
theorem Rule.trace_tells_outcome (rule : Rule σ V R ε) (hquiet : ∀ base ∈ rule.toList, base.IsQuiet)
    (subject : V) (journal : Journal σ) :
    ∃ events,
      ((rule.matchSubject subject).runFrom journal).2.events.toList =
        journal.events.toList ++ events ∧
      rule.ToldBy subject journal ((rule.matchSubject subject).runFrom journal).1 events := by
  rw [rule.matchSubject_eq_applyInOrder]
  obtain ⟨events, hevents, htrail⟩ := BaseRule.applyInOrder_leaves hquiet subject journal
  refine ⟨events, hevents, ?_⟩
  generalize ((BaseRule.applyInOrder subject rule.toList).runFrom journal).1 = outcome at htrail ⊢
  have hcount := htrail.countP_cases
  rw [← rule.alternatives_eq_length] at hcount
  exact {
    answers_iff := by
      constructor
      · intro h
        obtain ⟨value, hvalue⟩ := h
        obtain ⟨before, arm, rfl, -, -⟩ := htrail.exists_winner hvalue
        rw [← List.append_assoc]
        exact ⟨arm, List.getLast?_concat⟩
      · intro h
        obtain ⟨arm, hlast⟩ := h
        by_contra hnone
        rw [not_exists] at hnone
        exact htrail.guardSatisfied_not_mem hnone arm (List.mem_of_getLast? hlast)
    winner := fun value hvalue => htrail.exists_winner hvalue
    declines_iff := by
      rcases hcount with ⟨hnone, heq⟩ | ⟨hdecided, hlt⟩
      · exact iff_of_true hnone heq
      · exact iff_of_false hdecided hlt.ne
    fails := by
      rintro error rfl
      refine ⟨?_, htrail.guardSatisfied_not_mem fun _ h => by cases h⟩
      rcases hcount with ⟨hnone, -⟩ | ⟨-, hlt⟩
      · cases hnone
      · exact hlt
  }

end BaseRules

/-- An equality test declines, then the guards of a pattern that matches, and in the third base
rule the second of two guards holds. -/
theorem Rule.trace_tells_outcome_third :
    let never : Arm Unit Value Nat MatchError := ⟨fun _ => return false, fun _ => return 0⟩
    let always : Arm Unit Value Nat MatchError := ⟨otherwise, fun _ => return 1⟩
    let second := ((Pattern.var "x").when never).withGuard never
    let third := ((Value.tuplePattern []).when never).withGuard always
    let rule := ((Pattern.equality Value.unit).when always).orElse (second.orElse third)
    let events := [.extractorDeclined "==", .guardDeclined 0, .guardDeclined 1,
      .noGuardSatisfied 2, .guardDeclined 0, .guardSatisfied 1]
    (rule.matchSubject (.tuple [])).runFrom ⟨(), #[]⟩ =
        (.ok (some 1), ⟨(), events.toArray⟩) ∧
      rule.ToldBy (.tuple []) ⟨(), #[]⟩ (.ok (some 1)) events ∧
      BaseRule.WonInTurn (.tuple []) rule.toList ⟨(), #[]⟩ 1 2 1 := by
  intro never always second third rule events
  have hnever : never.IsQuiet := ⟨fun _ _ => rfl, fun _ _ => rfl⟩
  have halways : always.IsQuiet := ⟨fun _ _ => rfl, fun _ _ => rfl⟩
  have hquiet : ∀ base ∈ rule.toList, base.IsQuiet := by
    refine List.forall_mem_cons.mpr ⟨⟨trivial, ?_⟩, List.forall_mem_cons.mpr ⟨⟨trivial, ?_⟩,
      List.forall_mem_singleton.mpr ⟨⟨fun _ _ => rfl, trivial⟩, ?_⟩⟩⟩
    · exact List.forall_mem_singleton.mpr halways
    · exact List.forall_mem_cons.mpr ⟨hnever, List.forall_mem_singleton.mpr hnever⟩
    · exact List.forall_mem_cons.mpr ⟨hnever, List.forall_mem_singleton.mpr halways⟩
  have hrun : (rule.matchSubject (.tuple [])).runFrom ⟨(), #[]⟩ =
      (.ok (some 1), ⟨(), events.toArray⟩) := by
    rw [matchSubject_eq_applyInOrder]
    rfl
  obtain ⟨found, hfound, htold⟩ := rule.trace_tells_outcome hquiet (.tuple []) ⟨(), #[]⟩
  rw [hrun] at hfound htold
  obtain rfl : events = found := hfound
  obtain ⟨before, arm, hevents, -, hwon⟩ := htold.winner 1 rfl
  have hlast := congrArg List.getLast? hevents
  rw [← List.append_assoc, List.getLast?_concat] at hlast
  obtain rfl : 1 = arm := Event.guardSatisfied.inj (Option.some.inj hlast)
  exact ⟨hrun, htold, hwon⟩

end GuardedRules
