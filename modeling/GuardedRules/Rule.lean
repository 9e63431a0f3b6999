import GuardedRules.Arm
import GuardedRules.Pattern

/-!
# Rules

A rule is a tree of alternatives. Its leaves are base rules, a pattern with arms;
its inner nodes try the left side before the right. Rules of any size and shape are
built, extended and counted with a work list instead of the call stack.
-/

namespace GuardedRules

/-- A pattern and the arms to try in order on a subject that it matches. -/
structure BaseRule (σ V R ε : Type) where
  pattern : Pattern σ V
  arms : List (Arm σ V R ε)

/-- Ordered alternatives of base rules. -/
inductive Rule (σ V R ε : Type) where
  | base (rule : BaseRule σ V R ε)
  /-- Tries the left rule first. -/
  | orElse (left right : Rule σ V R ε)

variable {σ V R ε : Type}

/-- The base rule with one more arm, tried after the arms already there. -/
def BaseRule.addArm (rule : BaseRule σ V R ε) (arm : Arm σ V R ε) : BaseRule σ V R ε :=
  { rule with arms := rule.arms ++ [arm] }

namespace Rule

instance : Inhabited (Rule σ V R ε) := ⟨.base ⟨.wildcard, []⟩⟩

def nodes : Rule σ V R ε → Nat
  | .base _ => 1
  | .orElse left right => left.nodes + right.nodes + 1

def pendingNodes : List (Rule σ V R ε) → Nat
  | [] => 0
  | rule :: pending => rule.nodes + pendingNodes pending

/-- Puts left sides, nearest first, back in front of a rule. -/
def rebuild (passed : List (Rule σ V R ε)) (last : Rule σ V R ε) : Rule σ V R ε :=
  passed.foldl (fun extended left => .orElse left extended) last

/-- Extends the last base rule by an arm. `passed` holds the left sides that were met on
the way there, nearest first. -/
def extendLast (arm : Arm σ V R ε) (passed : List (Rule σ V R ε)) :
    Rule σ V R ε → Rule σ V R ε
  | .base rule => rebuild passed (.base (rule.addArm arm))
  | .orElse left right => extendLast arm (left :: passed) right

/-- The rule with one more arm on the base rule declared last. -/
def withGuard (rule : Rule σ V R ε) (arm : Arm σ V R ε) : Rule σ V R ε :=
  extendLast arm [] rule

def countPending (count : Nat) : List (Rule σ V R ε) → Nat
  | [] => count
  | .base _ :: pending => countPending (count + 1) pending
  | .orElse left right :: pending => countPending count (left :: right :: pending)
termination_by pending => pendingNodes pending
decreasing_by all_goals simp [pendingNodes, nodes] <;> omega

/-- The number of base rules of a rule. -/
def alternatives (rule : Rule σ V R ε) : Nat := countPending 0 [rule]

end Rule

namespace Pattern

/-- The rule with a single arm. -/
def when (pattern : Pattern σ V) (arm : Arm σ V R ε) : Rule σ V R ε := .base ⟨pattern, [arm]⟩

/-- The rule that acts on whatever the pattern matches. -/
def thenDo (pattern : Pattern σ V) (action : Action σ V R ε) : Rule σ V R ε :=
  pattern.when ⟨otherwise, action⟩

end Pattern

end GuardedRules
