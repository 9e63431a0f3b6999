import GuardedRules.Rule.Order

/-!
# Rules as they are written down

An expression builds a rule out of base rules and of rules that have been given names. A
name stands for the same rule wherever it occurs, however often it has been extended
elsewhere. What a rule lists can be told from its expression alone, and so can its shape,
the tree that is left when nothing of the base rules is looked at.
-/

namespace GuardedRules

inductive RuleExpression (N σ V R ε : Type) where
  | named (name : N)
  | base (rule : BaseRule σ V R ε)
  | when (pattern : Pattern σ V) (arm : Arm σ V R ε)
  | thenDo (pattern : Pattern σ V) (action : Action σ V R ε)
  | orElse (left right : RuleExpression N σ V R ε)
  | withGuard (rule : RuleExpression N σ V R ε) (arm : Arm σ V R ε)

namespace RuleExpression

variable {N σ V R ε : Type}

def build (named : N → Rule σ V R ε) : RuleExpression N σ V R ε → Rule σ V R ε
  | .named name => named name
  | .base rule => .base rule
  | .when pattern arm => pattern.when arm
  | .thenDo pattern action => pattern.thenDo action
  | .orElse left right => .orElse (left.build named) (right.build named)
  | .withGuard rule arm => (rule.build named).withGuard arm

/-- The base rules that are written down, from left to right. -/
def listed (named : N → List (BaseRule σ V R ε)) :
    RuleExpression N σ V R ε → List (BaseRule σ V R ε)
  | .named name => named name
  | .base rule => [rule]
  | .when pattern arm => [⟨pattern, [arm]⟩]
  | .thenDo pattern action => [⟨pattern, [⟨otherwise, action⟩]⟩]
  | .orElse left right => left.listed named ++ right.listed named
  | .withGuard rule arm => Rule.addArmToLast arm (rule.listed named)

end RuleExpression

/-- The tree of a rule without its base rules. -/
inductive Rule.Shape where
  | leaf
  | fork (left right : Shape)
deriving DecidableEq

def Rule.shape {σ V R ε : Type} : Rule σ V R ε → Rule.Shape
  | .base _ => .leaf
  | .orElse left right => .fork left.shape right.shape

end GuardedRules
