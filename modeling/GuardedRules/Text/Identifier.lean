/-!
# Identifiers

Names as they are usually chosen: a letter, and behind it letters, digits and underscores.
Beyond ASCII every character counts as a letter, so the letters of all scripts are among them.
-/

namespace GuardedRules.Text

def isLetter (c : Char) : Bool := c.isAlpha || 128 ≤ c.toNat

/-- A character that an identifier may have behind its first one. -/
def isNamePart (c : Char) : Bool := isLetter c || c.isDigit || c == '_'

def isIdentifier (name : String) : Bool :=
  match name.toList with
  | [] => false
  | first :: rest => isLetter first && rest.all isNamePart

theorem isIdentifier_iff {name : String} :
    isIdentifier name = true ↔ ∃ first rest, name.toList = first :: rest ∧
      isLetter first = true ∧ ∀ c ∈ rest, isNamePart c = true := by
  unfold isIdentifier
  cases hname : name.toList with
  | nil => simp
  | cons first rest =>
    rw [Bool.and_eq_true, List.all_eq_true]
    refine ⟨fun h => ⟨first, rest, rfl, h⟩, ?_⟩
    intro h
    obtain ⟨_, _, ⟨⟩, h⟩ := h
    exact h

end GuardedRules.Text
