import GuardedRules.Text.Cased
import GuardedRules.Text.CaseIgnorable
import GuardedRules.Text.LowercaseSpans

/-!
# Lower-casing

The full Unicode mapping of a text to small letters. Two characters need more
than the table of single forms: the dotted capital i becomes two characters, and
a capital sigma takes its final form at the end of a word.
-/

namespace GuardedRules.Text

/-- The single small form of a character; a character without one stands for itself. -/
def smallForm (c : Char) : Char :=
  match lowercaseSpans.find? (·.covers c.toNat) with
  | some span => Char.ofNat (c.toNat + span.offset).toNat
  | none => c

/-- Whether the first character that case rules do not look through has case. -/
def startsCased (context : List Char) : Bool :=
  match context.dropWhile caseIgnorable.contains with
  | c :: _ => cased.contains c
  | [] => false

/-- A sigma ends a word when a cased character precedes it and none follows.
`before` is read outwards from the sigma. -/
def endsWord (before after : List Char) : Bool :=
  startsCased before && !startsCased after

/-- What one character becomes between `before` and `after`. -/
def lowerAt (before : List Char) (c : Char) (after : List Char) : List Char :=
  if c = '\u03a3' then
    if endsWord before after then ['\u03c2'] else ['\u03c3']
  else if c = '\u0130' then ['i', '\u0307']
  else [smallForm c]

/-- Lower-cases the rest of a text whose earlier characters, nearest first, are `before`. -/
def lowerAfter (before : List Char) : List Char → List Char
  | [] => []
  | c :: after => lowerAt before c after ++ lowerAfter (c :: before) after

def lowercase (text : String) : String :=
  String.ofList (lowerAfter [] text.toList)

end GuardedRules.Text
