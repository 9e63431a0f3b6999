import GuardedRules.Value.Pattern

/-!
# Templates

The patterns for values that are made without extractors of one's own: variables,
aliases, wildcards, equality tests, tuples and variants. Unlike patterns they are
plain data, so one can ask which values a template stands for.
-/

namespace GuardedRules

/-- A pattern for values, described by data. -/
inductive Template where
  | wildcard
  | var (name : String)
  | aliased (name : String) (inner : Template)
  | equality (value : Value)
  | tuple (children : List Template)
  | variant (variant : Variant) (children : List Template)

namespace Template

variable {σ : Type}

/-- Induction over templates that may assume every child of a tuple and of a variant. -/
@[elab_as_elim]
theorem induction {motive : Template → Prop}
    (wildcard : motive .wildcard)
    (var : ∀ name, motive (.var name))
    (aliased : ∀ name inner, motive inner → motive (.aliased name inner))
    (equality : ∀ value, motive (.equality value))
    (tuple : ∀ children, (∀ child ∈ children, motive child) → motive (.tuple children))
    (variant : ∀ v children, (∀ child ∈ children, motive child) → motive (.variant v children))
    (t : Template) : motive t :=
  @Template.rec motive (fun children => ∀ child ∈ children, motive child)
    wildcard var aliased equality tuple variant (by simp) (by simp_all) t

mutual

def toPattern : Template → Pattern σ Value
  | .wildcard => .wildcard
  | .var name => .var name
  | .aliased name inner => .aliased name (toPattern inner)
  | .equality value => .equality value
  | .tuple children => Value.tuplePattern (toPatterns children)
  | .variant v children => v.pattern (toPatterns children)

def toPatterns : List Template → List (Pattern σ Value)
  | [] => []
  | child :: rest => toPattern child :: toPatterns rest

end

theorem toPatterns_eq_map (children : List Template) :
    toPatterns (σ := σ) children = children.map toPattern := by
  induction children with
  | nil => rfl
  | cons child rest ih => rw [toPatterns, ih, List.map_cons]

def cons (head tail : Template) : Template := variant ⟨Value.consTag, 2⟩ [head, tail]

def nil : Template := variant ⟨Value.nilTag, 0⟩ []

mutual

def WildcardFree : Template → Prop
  | .wildcard => False
  | .var _ => True
  | .aliased _ inner => WildcardFree inner
  | .equality _ => True
  | .tuple children => WildcardFreeAll children
  | .variant _ children => WildcardFreeAll children

def WildcardFreeAll : List Template → Prop
  | [] => True
  | child :: rest => WildcardFree child ∧ WildcardFreeAll rest

end

mutual

/-- The value that a template stands for when its variables have these values. An alias
stands for what is inside it. A wildcard stands for no value in particular. -/
def instantiate (values : String → Value) : Template → Value
  | .wildcard => .unit
  | .var name => values name
  | .aliased _ inner => instantiate values inner
  | .equality value => value
  | .tuple children => .tuple (instantiateAll values children)
  | .variant v children => .data v.tag (instantiateAll values children)

def instantiateAll (values : String → Value) : List Template → List Value
  | [] => []
  | child :: rest => instantiate values child :: instantiateAll values rest

end

mutual

/-- Every alias has a value equal to what its inner template stands for. -/
def AliasesHold (values : String → Value) : Template → Prop
  | .wildcard => True
  | .var _ => True
  | .aliased name inner =>
    (values name == instantiate values inner) = true ∧ AliasesHold values inner
  | .equality _ => True
  | .tuple children => AliasesHoldAll values children
  | .variant _ children => AliasesHoldAll values children

def AliasesHoldAll (values : String → Value) : List Template → Prop
  | [] => True
  | child :: rest => AliasesHold values child ∧ AliasesHoldAll values rest

end

/-- What a subject has to show at its root before a template looks any further. -/
inductive RootKey where
  | tag (tag : String)
  | length (items : Nat)
deriving DecidableEq

/-- The root key of a template that takes its subject apart; aliases are looked through. -/
def rootKey? : Template → Option RootKey
  | .wildcard => none
  | .var _ => none
  | .aliased _ inner => rootKey? inner
  | .equality _ => none
  | .tuple children => some (.length children.length)
  | .variant v _ => some (.tag v.tag)

mutual

/-- Every variant within the template has as many children as the signature gives its tag
fields. -/
def Fits (signature : String → Option Nat) : Template → Prop
  | .wildcard => True
  | .var _ => True
  | .aliased _ inner => Fits signature inner
  | .equality _ => True
  | .tuple children => FitsAll signature children
  | .variant v children =>
    signature v.tag = some children.length ∧ FitsAll signature children

def FitsAll (signature : String → Option Nat) : List Template → Prop
  | [] => True
  | child :: rest => Fits signature child ∧ FitsAll signature rest

end

theorem fitsAll_iff {signature : String → Option Nat} {children : List Template} :
    FitsAll signature children ↔ ∀ child ∈ children, child.Fits signature := by
  induction children with
  | nil => simp [FitsAll]
  | cons child rest ih => simp [FitsAll, ih]

end Template

namespace Value

mutual

/-- Data whose tag the signature knows has the number of fields given there, at any
depth. -/
def Fits (signature : String → Option Nat) : Value → Prop
  | .tuple items => FitsAll signature items
  | data tag fields =>
    (∀ arity, signature tag = some arity → fields.length = arity) ∧ FitsAll signature fields
  | _ => True

def FitsAll (signature : String → Option Nat) : List Value → Prop
  | [] => True
  | value :: rest => Fits signature value ∧ FitsAll signature rest

end

theorem fitsAll_iff {signature : String → Option Nat} {values : List Value} :
    FitsAll signature values ↔ ∀ value ∈ values, value.Fits signature := by
  induction values with
  | nil => simp [FitsAll]
  | cons value rest ih => simp [FitsAll, ih]

end Value

end GuardedRules
