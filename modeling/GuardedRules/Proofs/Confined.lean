import GuardedRules.Proofs.Composing

/-!
# What is put on record, and with what an evaluation fails

An attempt is confined to a kind of events and a kind of faults if it adds events of that kind
only and fails with such faults only. Sequences are confined if their parts are. Patterns with
quiet extractors add traces and fail for wrong numbers of components alone; the rest of what a
rule adds or fails with comes from the guards and actions of a caller.
-/

namespace GuardedRules

variable {ε ε' σ V R α β : Type}

namespace Attempt

/-- The attempt may use the caller's state but puts no event on record. -/
def IsQuiet (attempt : Attempt ε σ α) : Prop :=
  ∀ journal, (attempt.runFrom journal).2.events = journal.events

/-- Every error with which the attempt fails is such a fault. -/
def FailsOnly (fault : ε → Prop) (attempt : Attempt ε σ α) : Prop :=
  ∀ journal error, (attempt.runFrom journal).1 = .error error → fault error

/-- The attempt puts events of one kind on record, and its errors are such faults. -/
structure Confined (kind : Event → Prop) (fault : ε → Prop) (attempt : Attempt ε σ α) : Prop where
  adds : ∀ journal, ∃ added, (attempt.runFrom journal).2.events = journal.events ++ added ∧
    ∀ event ∈ added, kind event
  failsOnly : attempt.FailsOnly fault

variable {kind : Event → Prop} {fault : ε → Prop}

theorem IsQuiet.confined {attempt : Attempt ε σ α} (h : attempt.IsQuiet)
    (hfault : attempt.FailsOnly fault) : attempt.Confined kind fault := by
  refine ⟨?_, hfault⟩
  intro journal
  refine ⟨#[], ?_, by simp⟩
  rw [h journal, Array.append_empty]

theorem confined_pure (value : α) : (pure value : Attempt ε σ α).Confined kind fault := by
  refine IsQuiet.confined (fun _ => rfl) ?_
  intro journal error herror
  cases herror

theorem confined_throw {error : ε} (h : fault error) :
    (throw error : Attempt ε σ α).Confined kind fault := by
  refine IsQuiet.confined (fun _ => rfl) ?_
  intro journal thrown hthrown
  obtain rfl : error = thrown := Except.error.inj hthrown
  exact h

theorem confined_record {event : Event} (h : kind event) :
    (record event : Attempt ε σ Unit).Confined kind fault := by
  constructor
  · intro journal
    refine ⟨#[event], Array.push_eq_append, ?_⟩
    intro added hadded
    rw [Array.mem_singleton.mp hadded]
    exact h
  · intro journal error herror
    cases herror

/-- A sequence is confined if its first part is, and what follows each of its values. -/
theorem Confined.bind {attempt : Attempt ε σ α} {next : α → Attempt ε σ β}
    (h : attempt.Confined kind fault) (hnext : ∀ value, (next value).Confined kind fault) :
    (attempt >>= next).Confined kind fault := by
  constructor
  · intro journal
    obtain ⟨added, hadded, hkind⟩ := h.adds journal
    rw [runFrom_bind]
    rcases hrun : attempt.runFrom journal with ⟨error | value, middle⟩
    · rw [hrun] at hadded
      exact ⟨added, hadded, hkind⟩
    · rw [hrun] at hadded
      obtain ⟨more, hmore, hlater⟩ := (hnext value).adds middle
      refine ⟨added ++ more, ?_, ?_⟩
      · rw [hmore, hadded, Array.append_assoc]
      · intro event hevent
        rcases Array.mem_append.mp hevent with hfirst | hsecond
        · exact hkind event hfirst
        · exact hlater event hsecond
  · intro journal error herror
    rw [runFrom_bind] at herror
    rcases hrun : attempt.runFrom journal with ⟨thrown | value, middle⟩
    · rw [hrun] at herror
      cases herror
      exact h.failsOnly journal error (congrArg Prod.fst hrun)
    · rw [hrun] at herror
      exact (hnext value).failsOnly middle error herror

theorem Confined.adapt {wrap : ε → ε'} {wrapped : ε' → Prop} {attempt : Attempt ε σ α}
    (h : attempt.Confined kind fault) (hwrap : ∀ error, fault error → wrapped (wrap error)) :
    Confined kind wrapped (attempt.adapt wrap : Attempt ε' σ α) := by
  constructor
  · exact h.adds
  · intro journal error herror
    rw [runFrom_adapt] at herror
    rcases hrun : (attempt.runFrom journal).1 with thrown | value
    · rw [hrun] at herror
      cases herror
      exact hwrap thrown (h.failsOnly journal thrown hrun)
    · rw [hrun] at herror
      cases herror

theorem composes_confined :
    Composes (fun α => Confined (ε := ε) (σ := σ) (α := α) Event.IsTrace fault) :=
  ⟨confined_pure, confined_record, Confined.bind⟩

end Attempt

/-- An extractor has given a wrong number of components. -/
def MatchError.IsMismatch (error : MatchError) : Prop :=
  ∃ name expected found, error = .arityMismatch name expected found

/-- A pattern with quiet extractors adds traces only and fails with mismatches only. -/
theorem Pattern.matchSubject_confined [BEq V] {p : Pattern σ V}
    (hp : p.EveryExtractor Extractor.IsQuiet) (subject : V) :
    (p.matchSubject subject).Confined Event.IsTrace MatchError.IsMismatch := by
  refine composes_matchSubject Attempt.composes_confined ?_ ?_ subject
  · exact fun name expected found => Attempt.confined_throw ⟨name, expected, found, rfl⟩
  · refine hp.imp ?_
    intro extract hextract value
    refine Attempt.IsQuiet.confined (hextract value) ?_
    intro journal error herror
    cases herror

structure Arm.IsQuiet (arm : Arm σ V R ε) : Prop where
  guard : ∀ result, (arm.guard result).IsQuiet
  action : ∀ result, (arm.action result).IsQuiet

structure Arm.FailsOnly (fault : ε → Prop) (arm : Arm σ V R ε) : Prop where
  guard : ∀ result, (arm.guard result).FailsOnly fault
  action : ∀ result, (arm.action result).FailsOnly fault

structure BaseRule.IsQuiet (rule : BaseRule σ V R ε) : Prop where
  pattern : rule.pattern.EveryExtractor Extractor.IsQuiet
  arms : ∀ arm ∈ rule.arms, arm.IsQuiet

section Rules

variable {fault : ε → Prop}

theorem Arm.evaluate_confined {arm : Arm σ V R ε} (hquiet : arm.IsQuiet)
    (hfault : arm.FailsOnly fault) (result : MatchResult V) :
    (arm.evaluate result).Confined Event.IsTrace fault := by
  refine composes_evaluate Attempt.composes_confined ?_ ?_
  · exact (hquiet.guard result).confined (hfault.guard result)
  · exact (hquiet.action result).confined (hfault.action result)

variable [BEq V] [OfMatchError ε]

theorem BaseRule.matchSubject_confined {rule : BaseRule σ V R ε} (hquiet : rule.IsQuiet)
    (hmismatch : ∀ error : MatchError, error.IsMismatch → fault (ofMatchError error))
    (hfault : ∀ arm ∈ rule.arms, arm.FailsOnly fault) (subject : V) :
    (rule.matchSubject subject).Confined Event.IsTrace fault := by
  refine composes_matchSubject Attempt.composes_confined ?_ ?_
  · exact (Pattern.matchSubject_confined hquiet.pattern subject).adapt hmismatch
  · exact fun arm hmem => Arm.evaluate_confined (hquiet.arms arm hmem) (hfault arm hmem)

/-- A rule of quiet code adds traces only, and it fails with a mismatch of an extractor or with a
fault of a guard or an action. -/
theorem Rule.matchSubject_confined {rule : Rule σ V R ε}
    (hquiet : ∀ base ∈ rule.toList, base.IsQuiet)
    (hmismatch : ∀ error : MatchError, error.IsMismatch → fault (ofMatchError error))
    (hfault : ∀ base ∈ rule.toList, ∀ arm ∈ base.arms, arm.FailsOnly fault) (subject : V) :
    (rule.matchSubject subject).Confined Event.IsTrace fault := by
  rw [matchSubject_eq_applyInOrder]
  refine BaseRule.composes_applyInOrder Attempt.composes_confined ?_
  intro base hmem
  exact BaseRule.matchSubject_confined (hquiet base hmem) hmismatch (hfault base hmem) subject

end Rules

end GuardedRules
