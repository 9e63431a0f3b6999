import GuardedRules.Binary64.Text
import GuardedRules.Value

/-!
# Written values

The short text of a value, in which every value of every kind is one term. It is
meant for readers: texts are not escaped, so it cannot always be read back.
-/

namespace GuardedRules.Value

mutual

/-- The text of a value. Texts stand between quotation marks as they are, an atom
follows a colon, and a tuple of one item keeps a comma. -/
def toText : Value → String
  | integer number => toString number.toInt
  | float number => number.text
  | boolean truth => if truth then "true" else "false"
  | string text => "\"" ++ text ++ "\""
  | atom name => ":" ++ name
  | tuple [item] => "(" ++ toText item ++ ",)"
  | tuple items => "(" ++ ", ".intercalate (toTexts items) ++ ")"
  | data tag fields => tag ++ "(" ++ ", ".intercalate (toTexts fields) ++ ")"
  | unit => "unit"

def toTexts : List Value → List String
  | [] => []
  | value :: rest => toText value :: toTexts rest

end

instance : ToString Value := ⟨toText⟩

theorem toTexts_eq_map (values : List Value) : toTexts values = values.map toText := by
  induction values with
  | nil => rfl
  | cons value rest ih => rw [toTexts, ih, List.map_cons]

/-- A tuple is written like a list in brackets, but for the comma behind a single item. -/
theorem toText_tuple (items : List Value) :
    (tuple items).toText = "(" ++ ", ".intercalate (items.map toText) ++
      if items.length = 1 then ",)" else ")" := by
  rcases items with _ | ⟨first, _ | ⟨second, rest⟩⟩
  · rfl
  · rfl
  · have hlength : (first :: second :: rest).length ≠ 1 := by simp
    rw [if_neg hlength, toText, toTexts_eq_map]
    nofun

end GuardedRules.Value
