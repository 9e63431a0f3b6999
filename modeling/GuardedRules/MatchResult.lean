import GuardedRules.Bindings
import GuardedRules.MatchError

/-!
# Looking up what a match has bound

Guards and actions see the bindings of a match through three kinds of look-up, which
differ only in how they answer for a variable that is not bound.
-/

namespace GuardedRules

/-- The outcome of a successful match, as guards and actions see it. -/
structure MatchResult (V : Type) where
  bindings : Bindings V
deriving Inhabited

/-- A variable was taken for granted and is not bound. Nothing within a rule handles this. -/
structure UnboundVariable where
  name : String
deriving DecidableEq

def UnboundVariable.message (fault : UnboundVariable) : String :=
  s!"undefined pattern variable: {fault.name}"

namespace MatchResult

variable {V : Type}

def names (result : MatchResult V) : List String := result.bindings.names

def get? (result : MatchResult V) (name : String) : Option V := result.bindings.get? name

/-- The value of a variable, or an error that says which variables there are. -/
def get (result : MatchResult V) (name : String) : Except MatchError V :=
  match result.get? name with
  | some value => .ok value
  | none => .error (.undefinedVariable name result.names)

/-- The value of a variable that is known to be bound. -/
def demand (result : MatchResult V) (name : String) : Except UnboundVariable V :=
  match result.get? name with
  | some value => .ok value
  | none => .error ⟨name⟩

variable {result : MatchResult V} {name : String} {value : V}

theorem get_eq_ok_iff : result.get name = .ok value ↔ result.get? name = some value := by
  unfold get
  cases result.get? name <;> simp

theorem demand_eq_ok_iff : result.demand name = .ok value ↔ result.get? name = some value := by
  unfold demand
  cases result.get? name <;> simp

theorem get_of_none (h : result.get? name = none) :
    result.get name = .error (.undefinedVariable name result.names) := by
  unfold get
  rw [h]

theorem demand_of_none (h : result.get? name = none) : result.demand name = .error ⟨name⟩ := by
  unfold demand
  rw [h]

instance [BEq V] : BEq (MatchResult V) where
  beq l r := l.bindings == r.bindings

end MatchResult

end GuardedRules
