import GuardedRules.Text.ExtendingMark
import GuardedRules.Text.Unprintable

/-!
# Quoted text

A text between quotation marks in which every character that would be invisible,
ambiguous or attached to its neighbour is escaped.
-/

namespace GuardedRules.Text

/-- A character by its code point, in hexadecimal. -/
def codePointEscape (c : Char) : String :=
  "\\u\x7b" ++ String.ofList (Nat.toDigits 16 c.toNat) ++ "\x7d"

def escaped (c : Char) : String :=
  match c with
  | '\x00' => "\\0"
  | '\t' => "\\t"
  | '\r' => "\\r"
  | '\n' => "\\n"
  | '\\' => "\\\\"
  | '"' => "\\\""
  | c =>
    if extendingMark.contains c || unprintable.contains c then codePointEscape c
    else c.toString

/-- The text in quotation marks, with its escapes. -/
def quoted (text : String) : String :=
  "\"" ++ String.join (text.toList.map escaped) ++ "\""

end GuardedRules.Text
