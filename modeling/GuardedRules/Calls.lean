import GuardedRules.Rule.Order

/-!
# Which code an evaluation calls

Extractors, guards and actions are code of the caller. A watched pattern or rule calls
the same code as the one it is made from and, next to the caller's state, keeps a list
of the calls with what they gave. Constructors are numbered in the order in which they
are written, base rules and arms by their positions.
-/

namespace GuardedRules

/-- The caller's state with the calls so far, oldest first. -/
structure Watched (σ C : Type) where
  state : σ
  calls : List C

variable {σ V R ε C α : Type}

/-- Runs a step on the caller's own state and adds a call that tells what it gave. -/
def Traced.watch (call : α → C) (step : Traced σ α) : Traced (Watched σ C) α := fun journal =>
  let result := step.run ⟨journal.state.state, journal.events⟩
  (result.1, ⟨⟨result.2.state, journal.state.calls ++ [call result.1]⟩, result.2.events⟩)

/-- Watches an attempt, which may fail. -/
def Attempt.watch (call : Except ε α → C) (step : Attempt ε σ α) : Attempt ε (Watched σ C) α :=
  ExceptT.mk (Traced.watch call step.run)

namespace Pattern

mutual

/-- The constructors of a pattern in the order in which they are written, each with its
name and its number of sub-patterns. -/
def constructors : Pattern σ V → List (String × Nat)
  | .constructor name children _ => (name, children.length) :: constructorsIn children
  | .var _ => []
  | .wildcard => []
  | .aliased _ inner => constructors inner
  | .equality _ => []

def constructorsIn : List (Pattern σ V) → List (String × Nat)
  | [] => []
  | child :: rest => constructors child ++ constructorsIn rest

end

mutual

/-- The pattern whose calls of extractors are listed, with constructors counted from
`number`. -/
def watch (call : Nat → Option (List V) → C) (number : Nat) :
    Pattern σ V → Pattern (Watched σ C) V
  | .constructor name children extract =>
    .constructor name (watchIn call (number + 1) children) fun subject =>
      Traced.watch (call number) (extract subject)
  | .var name => .var name
  | .wildcard => .wildcard
  | .aliased name inner => .aliased name (watch call number inner)
  | .equality value => .equality value

def watchIn (call : Nat → Option (List V) → C) (number : Nat) :
    List (Pattern σ V) → List (Pattern (Watched σ C) V)
  | [] => []
  | child :: rest =>
    watch call number child :: watchIn call (number + (constructors child).length) rest

end

end Pattern

/-- A call made while a rule is applied. `rule` and `arm` are positions. -/
inductive Call (V R ε : Type) where
  | extractor (rule node : Nat) (values : Option (List V))
  | guard (rule arm : Nat) (answer : Except ε Bool)
  | action (rule arm : Nat) (outcome : Except ε R)

def Arm.watch (rule index : Nat) (arm : Arm σ V R ε) :
    Arm (Watched σ (Call V R ε)) V R ε where
  guard result := Attempt.watch (.guard rule index) (arm.guard result)
  action result := Attempt.watch (.action rule index) (arm.action result)

def BaseRule.watch (index : Nat) (rule : BaseRule σ V R ε) :
    BaseRule (Watched σ (Call V R ε)) V R ε where
  pattern := rule.pattern.watch (.extractor index) 0
  arms := rule.arms.mapIdx fun i arm => arm.watch index i

/-- The rule whose calls are listed, with base rules counted from `index`. -/
def Rule.watch (index : Nat) : Rule σ V R ε → Rule (Watched σ (Call V R ε)) V R ε
  | .base rule => .base (rule.watch index)
  | .orElse left right => .orElse (left.watch index) (right.watch (index + left.toList.length))

end GuardedRules
