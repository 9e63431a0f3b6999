import GuardedRules.Event

/-!
# Evaluations and what they leave behind

Matching may call code that it does not know: extractors, guards and actions. That
code works on a state of its caller's choosing, and every evaluation appends events
to a record. State and record live in a journal, which is kept also when an
evaluation fails. What an evaluation does is said by `Attempt.runFrom`, with one
equation for every way to build an attempt.
-/

namespace GuardedRules

/-- The caller's state and the events so far, oldest first. -/
structure Journal (σ : Type) where
  state : σ
  events : Array Event

/-- A computation that reads and writes the journal. -/
abbrev Traced (σ : Type) := StateM (Journal σ)

/-- A traced computation that may fail; the journal outlives a failure. -/
abbrev Attempt (ε σ : Type) := ExceptT ε (Traced σ)

def Journal.push {σ : Type} (journal : Journal σ) (event : Event) : Journal σ :=
  { journal with events := journal.events.push event }

def record {ε σ : Type} (event : Event) : Attempt ε σ Unit := modify (·.push event)

namespace Attempt

variable {ε ε' σ α β : Type}

/-- The outcome of an attempt that starts from a journal, and the journal it leaves. -/
def runFrom (attempt : Attempt ε σ α) (journal : Journal σ) : Except ε α × Journal σ :=
  attempt.run.run journal

theorem ext {first second : Attempt ε σ α}
    (h : ∀ journal, first.runFrom journal = second.runFrom journal) : first = second :=
  funext h

@[simp]
theorem runFrom_pure (value : α) (journal : Journal σ) :
    runFrom (pure value : Attempt ε σ α) journal = (.ok value, journal) := rfl

@[simp]
theorem runFrom_throw (error : ε) (journal : Journal σ) :
    runFrom (throw error : Attempt ε σ α) journal = (.error error, journal) := rfl

@[simp]
theorem runFrom_record (event : Event) (journal : Journal σ) :
    runFrom (record event : Attempt ε σ Unit) journal = (.ok (), journal.push event) := rfl

@[simp]
theorem runFrom_lift (step : Traced σ α) (journal : Journal σ) :
    runFrom (liftM step : Attempt ε σ α) journal =
      (.ok (step.run journal).1, (step.run journal).2) := rfl

/-- A failure ends a sequence; otherwise the rest goes on from the journal left behind. -/
theorem runFrom_bind (attempt : Attempt ε σ α) (next : α → Attempt ε σ β)
    (journal : Journal σ) :
    runFrom (attempt >>= next) journal =
      match attempt.runFrom journal with
      | (.ok value, left) => (next value).runFrom left
      | (.error error, left) => (.error error, left) := by
  show StateT.bind (m := Id) attempt (ExceptT.bindCont next) journal = _
  unfold runFrom
  simp only [StateT.bind, ExceptT.run, StateT.run]
  rcases attempt journal with ⟨_ | _, left⟩ <;> rfl

theorem runFrom_adapt (wrap : ε → ε') (attempt : Attempt ε σ α) (journal : Journal σ) :
    runFrom (attempt.adapt wrap : Attempt ε' σ α) journal =
      ((attempt.runFrom journal).1.mapError wrap, (attempt.runFrom journal).2) := rfl

end Attempt

end GuardedRules
