import GuardedRules.Binary64.Text
import GuardedRules.DataType
import GuardedRules.Outline

/-!
# Outlines of values and data types

Unlike the short text of a value its outline tells every kind apart and escapes
texts.
-/

namespace GuardedRules

namespace Value

mutual

/-- The outline of a value: its kind around its content. -/
def toOutline : Value → Outline
  | integer number => .call "Integer" [.leaf (toString number.toInt)]
  | float number => .call "Float" [.leaf number.structuralText]
  | boolean truth => .call "Boolean" [.leaf (if truth then "true" else "false")]
  | string text => .call "String" [.text text]
  | atom name => .call "Atom" [.text name]
  | tuple items => .call "Tuple" [.sequence (toOutlines items)]
  | data tag fields =>
    .fields "Data" [("tag", .text tag), ("fields", .sequence (toOutlines fields))]
  | unit => .leaf "Unit"

def toOutlines : List Value → List Outline
  | [] => []
  | value :: rest => toOutline value :: toOutlines rest

end

instance : Outlined Value := ⟨toOutline⟩

end Value

instance : Outlined Variant where
  outline variant :=
    .fields "Variant" [("tag", .text variant.tag), ("arity", .leaf (toString variant.arity))]

instance : Outlined DataType where
  outline type := .fields "DataType" [
    ("name", .text type.name),
    ("variants", .mapping (type.variants.map fun variant => (variant.tag, outline variant)))]

end GuardedRules
