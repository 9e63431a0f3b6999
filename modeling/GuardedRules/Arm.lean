import GuardedRules.Journal
import GuardedRules.MatchResult

/-!
# Guarded right-hand sides

An arm is a guard and the action to run when the guard holds. Both see the result
of the match and both may fail; a failure ends the whole evaluation.
-/

namespace GuardedRules

abbrev Guard (σ V ε : Type) := MatchResult V → Attempt ε σ Bool

abbrev Action (σ V R ε : Type) := MatchResult V → Attempt ε σ R

def otherwise {σ V ε : Type} : Guard σ V ε := fun _ => return true

/-- A guarded right-hand side. -/
structure Arm (σ V R ε : Type) where
  guard : Guard σ V ε
  action : Action σ V R ε

/-- Runs the action if the guard holds. Once it holds, the outcome of the action is
final. -/
def Arm.evaluate {σ V R ε : Type} (arm : Arm σ V R ε) (result : MatchResult V) :
    Attempt ε σ (Option R) := do
  if ← arm.guard result then
    return some (← arm.action result)
  else
    return none

end GuardedRules
