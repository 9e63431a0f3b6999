import GuardedRules.Pattern.Text
import GuardedRules.Text.Identifier
import GuardedRules.Value.Text

/-!
# Plain values and patterns

A text in a value is written as it is, and so are names; with a quotation mark in a text or a
comma in a name the written value could be another one. Plain is what has neither, nor floats,
whose texts are names in part.
-/

namespace GuardedRules

namespace Value

mutual

/-- No float occurs in the value and no text with a quotation mark, and atoms and tags are
identifiers. -/
def isPlain : Value → Bool
  | integer _ => true
  | float _ => false
  | boolean _ => true
  | string text => !text.toList.contains '"'
  | atom name => Text.isIdentifier name
  | tuple items => isPlainAll items
  | data tag fields => Text.isIdentifier tag && isPlainAll fields
  | unit => true

def isPlainAll : List Value → Bool
  | [] => true
  | value :: rest => isPlain value && isPlainAll rest

end

theorem isPlainAll_iff {values : List Value} :
    isPlainAll values = true ↔ ∀ value ∈ values, value.isPlain = true := by
  induction values with
  | nil => simp [isPlainAll]
  | cons value rest ih => simp [isPlainAll, ih]

theorem isPlain_string_iff {text : String} : (string text).isPlain = true ↔ '"' ∉ text.toList := by
  rw [isPlain, Bool.not_eq_true', List.contains_eq_mem, decide_eq_false_iff_not]

theorem isPlain_data_iff {tag : String} {fields : List Value} :
    (data tag fields).isPlain = true ↔
      Text.isIdentifier tag = true ∧ ∀ field ∈ fields, field.isPlain = true := by
  rw [isPlain, Bool.and_eq_true, isPlainAll_iff]

end Value

namespace Pattern

variable {σ : Type}

mutual

/-- Constructors, variables and aliases are named by identifiers and equality tests are for plain
values. -/
def isPlain : Pattern σ Value → Bool
  | .constructor name children _ => Text.isIdentifier name && isPlainAll children
  | .var name => Text.isIdentifier name
  | .wildcard => true
  | .aliased name inner => Text.isIdentifier name && isPlain inner
  | .equality value => value.isPlain

def isPlainAll : List (Pattern σ Value) → Bool
  | [] => true
  | child :: rest => isPlain child && isPlainAll rest

end

theorem isPlainAll_iff {children : List (Pattern σ Value)} :
    isPlainAll children = true ↔ ∀ child ∈ children, child.isPlain = true := by
  induction children with
  | nil => simp [isPlainAll]
  | cons child rest ih => simp [isPlainAll, ih]

theorem isPlain_constructor_iff {name : String} {children : List (Pattern σ Value)}
    {extract : Extractor σ Value} :
    (constructor name children extract).isPlain = true ↔
      Text.isIdentifier name = true ∧ ∀ child ∈ children, child.isPlain = true := by
  rw [isPlain, Bool.and_eq_true, isPlainAll_iff]

theorem isPlain_aliased_iff {name : String} {inner : Pattern σ Value} :
    (aliased name inner).isPlain = true ↔
      Text.isIdentifier name = true ∧ inner.isPlain = true := by
  rw [isPlain, Bool.and_eq_true]

end Pattern

end GuardedRules
