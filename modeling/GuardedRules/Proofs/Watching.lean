import GuardedRules.Calls

/-!
# Watching changes nothing

A watched attempt has the outcome of the plain one and leaves the same state and events;
besides it adds calls to its list. What it adds meets a condition that may depend on the
outcome, and the condition of a sequence follows from those of its parts. The simplest
conditions are about single calls, each of which is good by itself.
-/

namespace GuardedRules

variable {σ V R ε ε' C α β : Type}

/-- The journal of a watched run that is about to go on from this one. -/
def Journal.watched (journal : Journal σ) (calls : List C) : Journal (Watched σ C) :=
  ⟨⟨journal.state, calls⟩, journal.events⟩

theorem Journal.watched_inj {journal other : Journal σ} {calls more : List C} :
    journal.watched calls = other.watched more ↔ journal = other ∧ calls = more := by
  cases journal
  cases other
  simp only [watched, Journal.mk.injEq, Watched.mk.injEq]
  exact and_right_comm

/-- Watching does what the plain attempt does, and the calls it adds meet a condition on the
outcome and the calls. -/
def Attempt.Watches (watching : Attempt ε (Watched σ C) α) (plain : Attempt ε σ α)
    (post : Except ε α → List C → Prop) : Prop :=
  ∀ journal calls, ∃ added, post (plain.runFrom journal).1 added ∧
    watching.runFrom (journal.watched calls) =
      ((plain.runFrom journal).1, (plain.runFrom journal).2.watched (calls ++ added))

namespace Attempt.Watches

variable {watching : Attempt ε (Watched σ C) α} {plain : Attempt ε σ α}
  {post weaker : Except ε α → List C → Prop}

theorem imp (h : watching.Watches plain post)
    (hpost : ∀ outcome calls, post outcome calls → weaker outcome calls) :
    watching.Watches plain weaker := by
  intro journal calls
  obtain ⟨added, hadded, hrun⟩ := h journal calls
  exact ⟨added, hpost _ _ hadded, hrun⟩

/-- An attempt without calls of its own. -/
theorem of_silent (hpost : ∀ journal, post (plain.runFrom journal).1 [])
    (h : ∀ journal (calls : List C), watching.runFrom (journal.watched calls) =
      ((plain.runFrom journal).1, (plain.runFrom journal).2.watched calls)) :
    watching.Watches plain post := by
  intro journal calls
  exact ⟨[], hpost _, by rw [List.append_nil, h]⟩

/-- A sequence adds the calls of its first part and, if that has a value, those of the rest,
which may be known to depend on the value. -/
theorem bindValue {next : α → Attempt ε (Watched σ C) β} {plainNext : α → Attempt ε σ β}
    {whole : Except ε β → List C → Prop} (h : watching.Watches plain post)
    (rest : α → Except ε β → List C → Prop)
    (hnext : ∀ a, (next a).Watches (plainNext a) (rest a))
    (hfail : ∀ error calls, post (.error error) calls → whole (.error error) calls)
    (hgo : ∀ a first outcome second, post (.ok a) first → rest a outcome second →
      whole outcome (first ++ second)) :
    (watching >>= next).Watches (plain >>= plainNext) whole := by
  intro journal calls
  obtain ⟨added, hadded, hrun⟩ := h journal calls
  rw [runFrom_bind, runFrom_bind, hrun]
  rcases hplain : plain.runFrom journal with ⟨error | a, left⟩
  · rw [hplain] at hadded
    exact ⟨added, hfail error added hadded, rfl⟩
  · rw [hplain] at hadded
    obtain ⟨later, hlater, hlast⟩ := hnext a left (calls ++ added)
    refine ⟨added ++ later, hgo a added _ later hadded hlater, ?_⟩
    rw [← List.append_assoc]
    exact hlast

/-- A sequence adds the calls of its first part and, if that has a value, those of the rest. -/
theorem bind {next : α → Attempt ε (Watched σ C) β} {plainNext : α → Attempt ε σ β}
    {whole : Except ε β → List C → Prop} (h : watching.Watches plain post)
    (rest : Except ε β → List C → Prop) (hnext : ∀ a, (next a).Watches (plainNext a) rest)
    (hfail : ∀ error calls, post (.error error) calls → whole (.error error) calls)
    (hgo : ∀ a first outcome second, post (.ok a) first → rest outcome second →
      whole outcome (first ++ second)) :
    (watching >>= next).Watches (plain >>= plainNext) whole :=
  h.bindValue (fun _ => rest) hnext hfail hgo

theorem adapt {wrap : ε → ε'} {whole : Except ε' α → List C → Prop}
    (h : watching.Watches plain post)
    (hpost : ∀ outcome calls, post outcome calls → whole (outcome.mapError wrap) calls) :
    Watches (watching.adapt wrap) (plain.adapt wrap) whole := by
  intro journal calls
  obtain ⟨added, hadded, hrun⟩ := h journal calls
  refine ⟨added, hpost _ _ hadded, ?_⟩
  rw [runFrom_adapt, runFrom_adapt, hrun]

/-- The watch on an extractor adds one call. -/
theorem lift (step : Traced σ α) (call : α → C) (hpost : ∀ a, post (.ok a) [call a]) :
    Watches (liftM (Traced.watch call step) : Attempt ε (Watched σ C) α)
      (liftM step : Attempt ε σ α) post := by
  intro journal calls
  exact ⟨[call (step.run journal).1], hpost _, rfl⟩

/-- The call of an extractor comes first, and then those of what follows, which may be known to
depend on what the extractor gave. -/
theorem liftBind {step : Traced σ α} {call : α → C} {next : α → Attempt ε (Watched σ C) β}
    {plainNext : α → Attempt ε σ β} {whole : Except ε β → List C → Prop}
    (hnext : ∀ a, (next a).Watches (plainNext a) fun outcome calls =>
      whole outcome (call a :: calls)) :
    Watches ((liftM (Traced.watch call step) : Attempt ε (Watched σ C) α) >>= next)
      ((liftM step : Attempt ε σ α) >>= plainNext) whole := by
  have hstep : Watches (liftM (Traced.watch call step) : Attempt ε (Watched σ C) α)
      (liftM step : Attempt ε σ α) (fun outcome calls => ∃ a, outcome = .ok a ∧ calls = [call a]) :=
    lift step call fun a => ⟨a, rfl, rfl⟩
  refine hstep.bindValue (fun a outcome calls => whole outcome (call a :: calls)) hnext ?_ ?_
  · intro error calls hcalls
    obtain ⟨_, houtcome, _⟩ := hcalls
    cases houtcome
  · intro a first outcome later hfirst hlater
    obtain ⟨given, houtcome, rfl⟩ := hfirst
    cases houtcome
    exact hlater

/-- The watch on a guard or an action adds one call. -/
theorem watch (plain : Attempt ε σ α) (call : Except ε α → C)
    (hpost : ∀ outcome, post outcome [call outcome]) :
    Watches (Attempt.watch call plain) plain post := by
  intro journal calls
  exact ⟨[call (plain.runFrom journal).1], hpost _, rfl⟩

end Attempt.Watches

/-- Every call that is added has a property of its own. -/
abbrev eachCall (good : C → Prop) : Except ε α → List C → Prop :=
  fun _ calls => ∀ call ∈ calls, good call

namespace Attempt.Watches

variable {watching : Attempt ε (Watched σ C) α} {plain : Attempt ε σ α} {good : C → Prop}

theorem silent
    (h : ∀ journal (calls : List C), watching.runFrom (journal.watched calls) =
      ((plain.runFrom journal).1, (plain.runFrom journal).2.watched calls)) :
    watching.Watches plain (eachCall good) :=
  of_silent (fun _ _ hmem => absurd hmem List.not_mem_nil) h

/-- A sequence of parts that only make good calls makes only good calls. -/
theorem bindEach {next : α → Attempt ε (Watched σ C) β} {plainNext : α → Attempt ε σ β}
    (h : watching.Watches plain (eachCall good))
    (hnext : ∀ a, (next a).Watches (plainNext a) (eachCall good)) :
    (watching >>= next).Watches (plain >>= plainNext) (eachCall good) := by
  refine h.bind (eachCall good) hnext (fun _ _ hcalls => hcalls) ?_
  intro _ first _ second hfirst hsecond
  exact List.forall_mem_append.mpr ⟨hfirst, hsecond⟩

end Attempt.Watches

namespace Pattern

@[simp]
theorem length_watchIn (call : Nat → Option (List V) → C) (number : Nat)
    (children : List (Pattern σ V)) :
    (watchIn call number children).length = children.length := by
  induction children generalizing number with
  | nil => rfl
  | cons child rest ih => rw [watchIn, List.length_cons, List.length_cons, ih]

end Pattern

end GuardedRules
