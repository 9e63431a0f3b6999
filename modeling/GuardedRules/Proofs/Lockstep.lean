import GuardedRules.Journal

/-!
# Two runs in lockstep

Two attempts go in lockstep when they put the same events on record and their outcomes agree,
whatever journals they start from: both fail with one error, or both have values and these are
related. Which values are related is up to the use. Sequences go in lockstep as soon as their
parts do on related values, so a pair of runs is followed step by step along one program text.
Nothing is said about the caller's state, which may differ from the start and stay different.
-/

namespace GuardedRules

variable {ε σ α β γ δ : Type}

/-- The same error on both sides, or values that are related. -/
inductive OutcomesAgree (related : α → β → Prop) : Except ε α → Except ε β → Prop
  | error (error : ε) : OutcomesAgree related (.error error) (.error error)
  | ok {first : α} {second : β} :
      related first second → OutcomesAgree related (.ok first) (.ok second)

theorem OutcomesAgree.bind {related : α → β → Prop} {later : γ → δ → Prop}
    {first : Except ε α} {second : Except ε β} {next : α → Except ε γ} {other : β → Except ε δ}
    (h : OutcomesAgree related first second)
    (hnext : ∀ a b, related a b → OutcomesAgree later (next a) (other b)) :
    OutcomesAgree later (first >>= next) (second >>= other) := by
  cases h with
  | error error => exact .error error
  | ok hvalues => exact hnext _ _ hvalues

namespace Attempt

/-- Two attempts put the same events on record and their outcomes agree, from whatever journals
they start. -/
def Lockstep (related : α → β → Prop) (first : Attempt ε σ α) (second : Attempt ε σ β) : Prop :=
  ∀ journal other, ∃ added,
    (first.runFrom journal).2.events = journal.events ++ added ∧
    (second.runFrom other).2.events = other.events ++ added ∧
    OutcomesAgree related (first.runFrom journal).1 (second.runFrom other).1

variable {related : α → β → Prop}

theorem lockstep_pure {first : α} {second : β} (h : related first second) :
    Lockstep related (pure first : Attempt ε σ α) (pure second) := by
  intro journal other
  exact ⟨#[], Array.append_empty.symm, Array.append_empty.symm, .ok h⟩

theorem lockstep_throw (error : ε) :
    Lockstep related (throw error : Attempt ε σ α) (throw error) := by
  intro journal other
  exact ⟨#[], Array.append_empty.symm, Array.append_empty.symm, .error error⟩

theorem lockstep_record (event : Event) :
    Lockstep (· = ·) (record event : Attempt ε σ Unit) (record event) := by
  intro journal other
  exact ⟨#[event], Array.push_eq_append, Array.push_eq_append, .ok rfl⟩

/-- Steps that put nothing on record are in lockstep when what they give is related. -/
theorem lockstep_lift {first : Traced σ α} {second : Traced σ β}
    (hfirst : ∀ journal, (first.run journal).2.events = journal.events)
    (hsecond : ∀ journal, (second.run journal).2.events = journal.events)
    (h : ∀ journal other, related (first.run journal).1 (second.run other).1) :
    Lockstep related (liftM first : Attempt ε σ α) (liftM second) := by
  intro journal other
  refine ⟨#[], ?_, ?_, .ok (h journal other)⟩
  · rw [runFrom_lift, hfirst, Array.append_empty]
  · rw [runFrom_lift, hsecond, Array.append_empty]

theorem Lockstep.bind {later : γ → δ → Prop} {first : Attempt ε σ α} {second : Attempt ε σ β}
    {next : α → Attempt ε σ γ} {other : β → Attempt ε σ δ} (h : first.Lockstep related second)
    (hnext : ∀ a b, related a b → (next a).Lockstep later (other b)) :
    (first >>= next).Lockstep later (second >>= other) := by
  intro journal start
  obtain ⟨added, hfirst, hsecond, hagree⟩ := h journal start
  rw [runFrom_bind, runFrom_bind]
  rcases hrun : first.runFrom journal with ⟨outcome, left⟩
  rcases hother : second.runFrom start with ⟨result, reached⟩
  rw [hrun] at hfirst hagree
  rw [hother] at hsecond hagree
  cases hagree with
  | error error => exact ⟨added, hfirst, hsecond, .error error⟩
  | ok hvalues =>
    obtain ⟨more, hleft, hreached, hlast⟩ := hnext _ _ hvalues left reached
    refine ⟨added ++ more, ?_, ?_, hlast⟩
    · rw [hleft, hfirst, Array.append_assoc]
    · rw [hreached, hsecond, Array.append_assoc]

/-- The same record on both sides, and nothing more than what follows it. -/
theorem lockstep_record_bind (event : Event) {first : Attempt ε σ α} {second : Attempt ε σ β}
    (h : first.Lockstep related second) :
    Lockstep related (record event >>= fun _ => first) (record event >>= fun _ => second) :=
  (lockstep_record event).bind fun _ _ _ => h

end Attempt

end GuardedRules
