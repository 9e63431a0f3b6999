import GuardedRules.Proofs.Steady

/-!
# Evaluations that differ in the record only

Two attempts are the same up to the record if from one state of the caller they have one outcome
and leave one state, whatever events there are and whatever they add. An attempt that is so
related to itself does not look at the record. One that is stateless does not even look at the
state. Both are inherited by sequences, and so they come from the code of a caller to all that is
put together from it.
-/

namespace GuardedRules

variable {ε ε' σ V R α β : Type}

namespace Attempt

/-- From journals that differ in the events only, both attempts have one outcome and leave
journals that differ in the events only. -/
def SameUpToRecord (first second : Attempt ε σ α) : Prop :=
  ∀ journal other : Journal σ, journal.state = other.state →
    (first.runFrom journal).1 = (second.runFrom other).1 ∧
      (first.runFrom journal).2.state = (second.runFrom other).2.state

/-- What the attempt does with the caller's state and what it comes to do not depend on the
record. -/
def IgnoresRecord (attempt : Attempt ε σ α) : Prop := attempt.SameUpToRecord attempt

/-- The attempt has one outcome from every journal and leaves the caller's state as it is. It may
put events on record. -/
structure IsStateless (attempt : Attempt ε σ α) : Prop where
  steady : attempt.IsSteady
  keeps : ∀ journal, (attempt.runFrom journal).2.state = journal.state

namespace SameUpToRecord

variable {first second third : Attempt ε σ α}

theorem symm (h : first.SameUpToRecord second) : second.SameUpToRecord first := by
  intro journal other hstate
  obtain ⟨houtcome, hleft⟩ := h other journal hstate.symm
  exact ⟨houtcome.symm, hleft.symm⟩

theorem trans (h : first.SameUpToRecord second) (hthird : second.SameUpToRecord third) :
    first.SameUpToRecord third := by
  intro journal other hstate
  obtain ⟨houtcome, hleft⟩ := h journal other hstate
  obtain ⟨hlast, hend⟩ := hthird other other rfl
  exact ⟨houtcome.trans hlast, hleft.trans hend⟩

/-- What both attempts come to: one outcome, and two journals with one state. -/
theorem exists_runs (h : first.SameUpToRecord second) {journal other : Journal σ}
    (hstate : journal.state = other.state) :
    ∃ outcome left reached, first.runFrom journal = (outcome, left) ∧
      second.runFrom other = (outcome, reached) ∧ left.state = reached.state := by
  obtain ⟨houtcome, hleft⟩ := h journal other hstate
  exact ⟨(first.runFrom journal).1, (first.runFrom journal).2, (second.runFrom other).2, rfl,
    Prod.ext houtcome.symm rfl, hleft⟩

theorem bind (h : first.SameUpToRecord second) {next other : α → Attempt ε σ β}
    (hnext : ∀ value, (next value).SameUpToRecord (other value)) :
    (first >>= next).SameUpToRecord (second >>= other) := by
  intro journal start hstate
  obtain ⟨outcome, left, reached, hfirst, hsecond, hleft⟩ := h.exists_runs hstate
  rw [runFrom_bind, runFrom_bind, hfirst, hsecond]
  cases outcome with
  | error error => exact ⟨rfl, hleft⟩
  | ok value => exact hnext value left reached hleft

theorem orTry {first second later last : Attempt ε σ (Option α)} (h : first.SameUpToRecord second)
    (hlater : later.SameUpToRecord last) :
    (first.orTry later).SameUpToRecord (second.orTry last) := by
  refine h.bind ?_
  intro outcome
  cases outcome with
  | none => exact hlater
  | some value => exact fun _ _ hstate => ⟨rfl, hstate⟩

end SameUpToRecord

theorem ignoresRecord_pure (value : α) : (pure value : Attempt ε σ α).IgnoresRecord :=
  fun _ _ hstate => ⟨rfl, hstate⟩

theorem ignoresRecord_throw (error : ε) : (throw error : Attempt ε σ α).IgnoresRecord :=
  fun _ _ hstate => ⟨rfl, hstate⟩

theorem IgnoresRecord.orTry {first second : Attempt ε σ (Option α)} (h : first.IgnoresRecord)
    (hsecond : second.IgnoresRecord) : (first.orTry second).IgnoresRecord :=
  SameUpToRecord.orTry h hsecond

theorem IgnoresRecord.adapt {attempt : Attempt ε σ α} (h : attempt.IgnoresRecord) (wrap : ε → ε') :
    IgnoresRecord (attempt.adapt wrap : Attempt ε' σ α) := by
  intro journal other hstate
  obtain ⟨houtcome, hleft⟩ := h journal other hstate
  rw [runFrom_adapt, runFrom_adapt, houtcome]
  exact ⟨rfl, hleft⟩

theorem composes_ignoresRecord : Composes (fun α => IgnoresRecord (ε := ε) (σ := σ) (α := α)) :=
  ⟨ignoresRecord_pure, fun _ _ _ hstate => ⟨rfl, hstate⟩,
    fun h hnext => SameUpToRecord.bind h hnext⟩

theorem IsStateless.ignoresRecord {attempt : Attempt ε σ α} (h : attempt.IsStateless) :
    attempt.IgnoresRecord := by
  intro journal other hstate
  exact ⟨h.steady journal other, (h.keeps journal).trans (hstate.trans (h.keeps other).symm)⟩

theorem IsStateless.bind {attempt : Attempt ε σ α} {next : α → Attempt ε σ β}
    (h : attempt.IsStateless) (hnext : ∀ value, (next value).IsStateless) :
    (attempt >>= next).IsStateless := by
  refine ⟨h.steady.bind fun value => (hnext value).steady, ?_⟩
  intro journal
  have hkeeps := h.keeps journal
  rw [runFrom_bind]
  rcases hrun : attempt.runFrom journal with ⟨error | value, left⟩
  · rwa [hrun] at hkeeps
  · rw [hrun] at hkeeps
    exact ((hnext value).keeps left).trans hkeeps

theorem IsStateless.adapt {attempt : Attempt ε σ α} (h : attempt.IsStateless) (wrap : ε → ε') :
    IsStateless (attempt.adapt wrap : Attempt ε' σ α) :=
  ⟨h.steady.adapt wrap, h.keeps⟩

/-- Where a stateless step has a value, only what follows the value counts. -/
theorem IsStateless.bind_sameUpToRecord {step : Attempt ε σ α} (h : step.IsStateless) {value : α}
    {start : Journal σ} (hvalue : (step.runFrom start).1 = .ok value) (next : α → Attempt ε σ β)
    (hnext : (next value).IgnoresRecord) : (step >>= next).SameUpToRecord (next value) := by
  intro journal other hstate
  have hgives := (h.steady journal start).trans hvalue
  have hkept := (h.keeps journal).trans hstate
  rw [runFrom_bind]
  rcases hrun : step.runFrom journal with ⟨outcome, left⟩
  rw [hrun] at hgives hkept
  obtain rfl : outcome = .ok value := hgives
  exact hnext left other hkept

/-- A stateless step may be taken a second time where what follows it has declined. -/
theorem IsStateless.again {step : Attempt ε σ α} (h : step.IsStateless)
    {next later : α → Attempt ε σ (Option β)} (hnext : ∀ value, (next value).IgnoresRecord)
    (hlater : ∀ value, (later value).IgnoresRecord) :
    ((step >>= next).orTry (step >>= later)).SameUpToRecord
      (step >>= fun value => (next value).orTry (later value)) := by
  intro journal other hstate
  obtain ⟨outcome, left, reached, hleft, hreached, hsame⟩ := h.ignoresRecord.exists_runs hstate
  cases outcome with
  | error error =>
    rw [runFrom_orTry, runFrom_bind, runFrom_bind, hleft, hreached]
    exact ⟨rfl, hsame⟩
  | ok value =>
    have hvalue : (step.runFrom journal).1 = .ok value := congrArg Prod.fst hleft
    have hfirst := h.bind_sameUpToRecord hvalue next (hnext value)
    have hsecond := h.bind_sameUpToRecord hvalue later (hlater value)
    have hboth := h.bind_sameUpToRecord hvalue (fun value => (next value).orTry (later value))
      ((hnext value).orTry (hlater value))
    exact ((hfirst.orTry hsecond).trans hboth.symm) journal other hstate

theorem composes_isStateless : Composes (fun α => IsStateless (ε := ε) (σ := σ) (α := α)) :=
  ⟨fun value => ⟨isSteady_pure value, fun _ => rfl⟩, fun _ => ⟨fun _ _ => rfl, fun _ => rfl⟩,
    IsStateless.bind⟩

end Attempt

/-- What the extractor answers and does with the caller's state does not depend on the record. -/
def Extractor.IgnoresRecord (extract : Extractor σ V) : Prop :=
  ∀ subject, (liftM (extract subject) : Attempt MatchError σ _).IgnoresRecord

/-- The extractor answers by the subject alone and leaves the caller's state as it is. -/
def Extractor.IsStateless (extract : Extractor σ V) : Prop :=
  ∀ subject, (liftM (extract subject) : Attempt MatchError σ _).IsStateless

theorem Extractor.IsPure.isStateless {extract : Extractor σ V} (h : extract.IsPure) :
    extract.IsStateless := by
  obtain ⟨answer, rfl⟩ := h
  exact fun _ => ⟨fun _ _ => rfl, fun _ => rfl⟩

namespace Pattern

variable [BEq V] {p : Pattern σ V}

theorem ignoresRecord_matchSubject (hp : p.EveryExtractor Extractor.IgnoresRecord) (subject : V) :
    (p.matchSubject subject).IgnoresRecord :=
  composes_matchSubject Attempt.composes_ignoresRecord
    (fun _ _ _ => Attempt.ignoresRecord_throw _) hp subject

theorem isStateless_matchSubject (hp : p.EveryExtractor Extractor.IsStateless) (subject : V) :
    (p.matchSubject subject).IsStateless :=
  composes_matchSubject Attempt.composes_isStateless
    (fun _ _ _ => ⟨Attempt.isSteady_throw _, fun _ => rfl⟩) hp subject

end Pattern

structure Arm.IgnoresRecord (arm : Arm σ V R ε) : Prop where
  guard : ∀ result, (arm.guard result).IgnoresRecord
  action : ∀ result, (arm.action result).IgnoresRecord

structure BaseRule.IgnoresRecord (rule : BaseRule σ V R ε) : Prop where
  pattern : rule.pattern.EveryExtractor Extractor.IgnoresRecord
  arms : ∀ arm ∈ rule.arms, arm.IgnoresRecord

theorem Arm.IgnoresRecord.evaluate {arm : Arm σ V R ε} (h : arm.IgnoresRecord)
    (result : MatchResult V) : (arm.evaluate result).IgnoresRecord :=
  composes_evaluate Attempt.composes_ignoresRecord (h.guard result) (h.action result)

theorem BaseRule.IgnoresRecord.matchSubject [BEq V] [OfMatchError ε] {rule : BaseRule σ V R ε}
    (h : rule.IgnoresRecord) (subject : V) : (rule.matchSubject subject).IgnoresRecord := by
  refine composes_matchSubject Attempt.composes_ignoresRecord ?_ ?_
  · exact (Pattern.ignoresRecord_matchSubject h.pattern subject).adapt ofMatchError
  · exact fun arm hmem => (h.arms arm hmem).evaluate

end GuardedRules
